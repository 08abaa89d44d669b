import StationMesh.Config.ImageStore
import StationMesh.Proofs.Config.Image

/-!
# Changes of one image

All fields lie in the same bytes, next to each other and to the checksum, and a change writes to the
bytes twice: first the field, then the checksum. Neither touches the bytes of another field, and the
second makes the checksum match what the first has written. So the image is at all times the image
of some settings, the ones that the same calls make of a record.
-/

namespace StationMesh.Config

namespace ImageStore

variable {store : ImageStore} {settings : Settings} {field other : Field} {value : Bytes}
  {offset start length : Nat}

/-! ### Writing bytes -/

theorem image_overwrite (inside : offset + value.length ≤ Settings.imageSize) :
    (store.overwrite offset value).image =
      store.image.take offset ++ value ++ store.image.drop (offset + value.length) := by
  have length_eq := store.length_eq
  apply List.take_of_length_le
  simp only [List.length_append, List.length_take, List.length_drop]
  omega

theorem length_take_image (inside : offset + value.length ≤ Settings.imageSize) :
    (store.image.take offset).length = offset := by
  rw [List.length_take, store.length_eq]
  omega

/-- What was written is found where it was written. -/
theorem slice_overwrite_self (inside : offset + value.length ≤ Settings.imageSize) :
    ((store.overwrite offset value).image.drop offset).take value.length = value := by
  rw [image_overwrite inside, List.append_assoc, List.drop_left' (length_take_image inside),
    List.take_left' rfl]

/-- Bytes in front of what was written and behind it are as before. -/
theorem slice_overwrite_of_apart (inside : offset + value.length ≤ Settings.imageSize)
    (apart : start + length ≤ offset ∨ offset + value.length ≤ start) :
    ((store.overwrite offset value).image.drop start).take length =
      (store.image.drop start).take length := by
  have front : (store.image.take offset).length = offset := length_take_image inside
  rw [image_overwrite inside]
  rcases apart with before | behind
  · rw [List.append_assoc, List.drop_append_of_le_length (by omega),
      List.take_append_of_le_length (by rw [List.length_drop]; omega), List.drop_take,
      List.take_take, Nat.min_eq_left (by omega)]
  · obtain ⟨further, rfl⟩ := Nat.exists_eq_add_of_le behind
    have written : (store.image.take offset ++ value).length = offset + value.length := by
      rw [List.length_append, front]
    rw [← List.drop_drop, List.drop_left' written, List.drop_drop]

/-! ### Fields and checksum -/

theorem get_overwrite (length_eq : value.length = field.length) :
    get field (store.overwrite field.offset value) = value := by
  have inside := field.end_le_dataSize
  rw [get, ← length_eq]
  exact slice_overwrite_self (by rw [length_eq, Settings.imageSize]; omega)

theorem get_overwrite_of_ne (ne : other ≠ field) (length_eq : value.length = field.length) :
    get other (store.overwrite field.offset value) = get other store := by
  have inside := field.end_le_dataSize
  have apart := Field.apart ne
  exact slice_overwrite_of_apart (by rw [length_eq, Settings.imageSize]; omega)
    (by rwa [length_eq])

/-- The checksum that is stored is the one of the fields. -/
def Sound (store : ImageStore) : Prop := store.storedChecksum = Checksum.ofBytes store.data

theorem checksum_fits (store : ImageStore) :
    dataSize + (Bytes.ofWord (Checksum.ofBytes store.data)).length ≤ Settings.imageSize := by
  rw [Bytes.length_ofWord]
  exact Nat.le_refl _

@[simp]
theorem get_updateChecksum : get field store.updateChecksum = get field store :=
  slice_overwrite_of_apart store.checksum_fits (.inl field.end_le_dataSize)

theorem data_updateChecksum : store.updateChecksum.data = store.data := by
  have front : 0 + dataSize ≤ dataSize := Nat.le_of_eq (Nat.zero_add _)
  exact slice_overwrite_of_apart store.checksum_fits (.inl front)

theorem length_checksum (store : ImageStore) : (store.image.drop dataSize).length = 2 := by
  rw [List.length_drop, store.length_eq]
  rfl

theorem sound_updateChecksum (store : ImageStore) : store.updateChecksum.Sound := by
  have stored : (store.updateChecksum.image.drop dataSize).take 2 =
      Bytes.ofWord (Checksum.ofBytes store.data) := slice_overwrite_self store.checksum_fits
  rw [List.take_of_length_le (Nat.le_of_eq store.updateChecksum.length_checksum)] at stored
  rw [Sound, data_updateChecksum, storedChecksum, stored, Bytes.toWord_ofWord]

/-- If its checksum matches, a store is read back from its image, and from no other bytes. -/
theorem ofImage_eq_ok_iff {image : Bytes} :
    ofImage image = .ok store ↔ image = store.image ∧ store.Sound := by
  constructor
  · intro read
    rw [ofImage] at read
    split at read
    · dsimp only at read
      split at read
      · rename_i sound
        rw [Except.ok.injEq] at read
        subst read
        exact ⟨rfl, sound⟩
      · contradiction
    · contradiction
  · rintro ⟨rfl, sound⟩
    rw [ofImage, dif_pos store.length_eq]
    exact if_pos sound

/-! ### The settings in an image -/

/-- The store holds these settings. -/
structure Holds (store : ImageStore) (settings : Settings) : Prop where
  sound : store.Sound
  get_eq : ∀ field, get field store = settings.get field

theorem length_data (store : ImageStore) : store.data.length = dataSize := by
  rw [data, List.length_take, store.length_eq]
  rfl

theorem Sound.holds (sound : store.Sound) : store.Holds (.ofData store.data) where
  sound := sound
  get_eq field := by
    have inside := field.end_le_dataSize
    rw [Settings.get_ofData store.length_data, Field.sliceIn, ← Field.offset_eq, data,
      List.drop_take, List.take_take, Nat.min_eq_left (by omega), get]

theorem Holds.image_eq (holds : store.Holds settings) : store.image = settings.image := by
  have same : settings = .ofData store.data := by
    apply Settings.eq_of_get_eq
    intro field
    rw [← holds.get_eq, holds.sound.holds.get_eq]
  have data_eq : settings.data = store.data := by
    rw [same, Settings.data_ofData store.length_data]
  have checksum_eq : store.image.drop dataSize = Bytes.ofWord (Checksum.ofBytes store.data) := by
    rw [← holds.sound, storedChecksum, Bytes.ofWord_toWord store.length_checksum]
  rw [Settings.image, data_eq, ← checksum_eq, data, List.take_append_drop]

/-- A field is written to the image as it is to the settings. -/
theorem Holds.write (holds : store.Holds settings) (length_eq : value.length = field.length) :
    (store.overwrite field.offset value).updateChecksum.Holds (settings.write field value) where
  sound := sound_updateChecksum _
  get_eq other := by
    rw [get_updateChecksum]
    by_cases same : other = field
    · subst same
      rw [get_overwrite length_eq, Settings.get_write length_eq]
    · rw [get_overwrite_of_ne same length_eq, Settings.get_write_of_ne same, holds.get_eq]

theorem holds_delivered : delivered.Holds {} where
  sound := sound_updateChecksum _
  get_eq field := by
    rw [delivered, get_updateChecksum]
    cases field <;> rfl

end ImageStore

/-! ### Origins -/

namespace Origin

def store : Origin → Except ConfigError ImageStore
  | delivered => .ok .delivered
  | withStationId id => .ok (.withStationId id)
  | ofImage image => ImageStore.ofImage image

theorem holds_store {origin : Origin} {built : ImageStore} (succeeded : origin.store = .ok built) :
    ∃ settings, origin.settings = .ok settings ∧ built.Holds settings := by
  cases origin with
  | delivered =>
      cases succeeded
      exact ⟨_, rfl, ImageStore.holds_delivered⟩
  | withStationId id =>
      cases succeeded
      exact ⟨_, rfl, ImageStore.holds_delivered.write rfl⟩
  | ofImage image =>
      obtain ⟨rfl, sound⟩ := ImageStore.ofImage_eq_ok_iff.mp succeeded
      exact ⟨_, Settings.ofImage_eq_ok_iff.mpr sound.holds.image_eq, sound.holds⟩

end Origin

/-! ### Calls -/

/-- A call on a store that keeps an image. -/
def Change.apply : Change → Action ImageStore ConfigError Field
  | .set field value => do
      ImageStore.set field value
      return field
  | .setByCode code value => ImageStore.setByCode code value

namespace ImageStore

theorem run_set (field : Field) (value : Bytes) (store : ImageStore) (settings : Settings) :
    (set field value).run store =
      match Store.set field value settings with
      | .ok _ => (.ok (), (store.overwrite field.offset value).updateChecksum)
      | .error error => (.error error, store) := by
  have set_eq : Store.set field value settings = Settings.set field value settings := rfl
  rw [set_eq, set, Settings.set]
  split
  · rfl
  · split
    · rfl
    · rfl

end ImageStore

namespace Change

variable {store left : ImageStore} {settings : Settings} {field : Field} {change : Change}
  {error : ConfigError}

/-- A call is answered as it is for settings. If it fails, the image is as before; otherwise the
field that was named is written, and the checksum after it. -/
theorem run_apply (change : Change) (store : ImageStore) (settings : Settings) :
    change.apply.run store =
      match change.attempt settings with
      | .ok (field, _) => (.ok field, (store.overwrite field.offset change.value).updateChecksum)
      | .error error => (.error error, store) := by
  have set_eq (field : Field) (value : Bytes) :
      ((do ImageStore.set field value; return field) : Action ImageStore ConfigError Field).run
        store =
      match Store.set field value settings with
      | .ok _ => (.ok field, (store.overwrite field.offset value).updateChecksum)
      | .error error => (.error error, store) := by
    rw [Action.run_bind, ImageStore.run_set field value store settings]
    cases Store.set field value settings with
    | ok => rfl
    | error => rfl
  cases change with
  | set field value =>
      rw [apply, set_eq, attempt]
      cases Store.set field value settings with
      | ok => rfl
      | error => rfl
  | setByCode code value =>
      rw [apply, ImageStore.setByCode, attempt, Store.setByCode]
      cases Field.ofCode? code with
      | none => rfl
      | some field =>
          dsimp only
          rw [set_eq]
          cases Store.set field value settings with
          | ok => rfl
          | error => rfl

theorem answer_apply (change : Change) (store : ImageStore) (settings : Settings) :
    (change.apply.run store).1 = (change.attempt settings).map Prod.fst := by
  rw [change.run_apply store settings]
  cases change.attempt settings with
  | ok => rfl
  | error => rfl

theorem written_of_ok (succeeded : change.apply.run store = (.ok field, left)) :
    change.field? = some field ∧ Settings.Fits field change.value ∧
      left = (store.overwrite field.offset change.value).updateChecksum := by
  rw [change.run_apply store {}] at succeeded
  split at succeeded
  · rename_i named changed attempted
    obtain ⟨field_eq, fits, _⟩ := attempt_eq_ok_iff.mp attempted
    obtain ⟨rfl, rfl⟩ : named = field ∧ _ = left := by simpa using succeeded
    exact ⟨field_eq, fits, rfl⟩
  · simp at succeeded

theorem untouched_of_error (refused : change.apply.run store = (.error error, left)) :
    left = store ∧ ∀ field, change.field? = some field → ¬Settings.Fits field change.value := by
  rw [change.run_apply store {}] at refused
  split at refused
  · simp at refused
  · rename_i cause attempted
    refine ⟨(congrArg Prod.snd refused).symm, fun field named fits => ?_⟩
    have accepted : change.attempt ({} : Settings) = .ok (field, _) :=
      attempt_eq_ok_iff.mpr ⟨named, fits, rfl⟩
    rw [attempted] at accepted
    contradiction

end Change

namespace ImageStore

variable {store : ImageStore} {settings : Settings}

/-- The store after a call. -/
def perform (store : ImageStore) (change : Change) : ImageStore := (change.apply.run store).2

/-- The store after a run of calls. -/
def run (changes : List Change) (store : ImageStore) : ImageStore := changes.foldl perform store

/-- A call keeps up with the same call on the settings. -/
theorem Holds.perform (holds : store.Holds settings) (change : Change) :
    (store.perform change).Holds (settings.perform change) := by
  rw [ImageStore.perform, change.run_apply store settings, Settings.perform]
  cases attempted : change.attempt settings with
  | error error => exact holds
  | ok answer =>
      obtain ⟨field, changed⟩ := answer
      obtain ⟨_, fits, rfl⟩ := Change.attempt_eq_ok_iff.mp attempted
      exact holds.write fits.length_eq

theorem Holds.run (holds : store.Holds settings) (changes : List Change) :
    (store.run changes).Holds (settings.run changes) := by
  induction changes generalizing store settings with
  | nil => exact holds
  | cons change rest ih => exact ih (holds.perform change)

/-- However a store was built and whatever calls were made, the store is read back from its image,
and only from it; the image and the answer to the next call are the ones of the settings that were
built likewise and went through the same calls. If the next call succeeds, the field it names reads
as the value it gives, and all others read as before. If it fails, it names no field that could hold
the value, and the store is as before. -/
theorem intact_run {origin : Origin} {built : ImageStore} (succeeded : origin.store = .ok built)
    (changes : List Change) :
    let store := built.run changes
    (∀ image, ofImage image = .ok store ↔ image = store.image) ∧
    (∃ settings, origin.settings = .ok settings ∧ store.image = (settings.run changes).image ∧
      ∀ change : Change, (change.apply.run store).1 =
        (change.attempt (settings.run changes)).map Prod.fst) ∧
    ∀ change : Change,
      (∀ field left, change.apply.run store = (.ok field, left) →
        change.field? = some field ∧ get field left = change.value ∧
          ∀ other, other ≠ field → get other left = get other store) ∧
      (∀ error left, change.apply.run store = (.error error, left) → left = store ∧
        ∀ field, change.field? = some field → ¬Settings.Fits field change.value) := by
  intro store
  obtain ⟨settings, settings_eq, held⟩ := Origin.holds_store succeeded
  have holds : store.Holds (settings.run changes) := held.run changes
  refine ⟨?_, ⟨settings, settings_eq, holds.image_eq, fun change => ?_⟩, fun change => ⟨?_, ?_⟩⟩
  · intro image
    rw [ofImage_eq_ok_iff]
    exact and_iff_left holds.sound
  · exact change.answer_apply store (settings.run changes)
  · intro field left answered
    obtain ⟨field_eq, fits, rfl⟩ := Change.written_of_ok answered
    refine ⟨field_eq, ?_, ?_⟩
    · rw [get_updateChecksum, get_overwrite fits.length_eq]
    · intro other ne
      rw [get_updateChecksum, get_overwrite_of_ne ne fits.length_eq]
  · intro error left answered
    exact Change.untouched_of_error answered

/-- A store that was built under the id of all stations is put right and loses nothing; the value
that is too long is refused. -/
theorem intact_run_corrected :
    let changes := [Change.setByCode 1 [7], .set .csmaSlotTime [50, 0], .set .flags [4]]
    ∃ built, (Origin.withStationId everyStation).store = .ok built ∧
      ofImage (built.run changes).image = .ok (built.run changes) ∧
      (built.run changes).image.take 5 = [7, 4, 63, 100, 8] := by
  intro changes
  have built : (Origin.withStationId everyStation).store = .ok (.withStationId everyStation) := rfl
  have intact := intact_run built changes
  refine ⟨_, rfl, (intact.1 _).mpr rfl, ?_⟩
  decide

end ImageStore

end StationMesh.Config
