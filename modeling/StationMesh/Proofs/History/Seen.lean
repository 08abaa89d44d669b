import Mathlib.Data.List.DropRight
import Mathlib.Data.List.Nodup
import Mathlib.Data.List.Perm.Basic
import Mathlib.Data.List.Dedup
import StationMesh.History.Seen

/-!
# The station that gives way is the one heard of least lately

Each station has at most one place, and there are only so many. A station that is heard again keeps
its place, a new one takes a free place, and if there is none it takes the place of one that was not
heard of for the longest time. As long as time goes on from one sighting to the next, that is the
station whose last sighting lies back farthest. So the stations that have a place are those heard of
last, however often each of them was.
-/

namespace List

variable {α : Type}

theorem take_filter_of_forall_mem_take {items : List α} {count : Nat} {p : α → Bool}
    (kept : ∀ item ∈ items.take count, p item) :
    (items.filter p).take count = items.take count := by
  induction items generalizing count with
  | nil => rfl
  | cons item items ih =>
      rcases count with _ | count
      · rfl
      · rw [take_succ_cons, forall_mem_cons] at kept
        rw [filter_cons_of_pos kept.1, take_succ_cons, take_succ_cons, ih kept.2]

theorem take_erase_of_mem_take [DecidableEq α] {items : List α} {item : α} {count : Nat}
    (taken : item ∈ items.take (count + 1)) :
    (items.erase item).take count = (items.take (count + 1)).erase item := by
  induction items generalizing count with
  | nil => contradiction
  | cons first items ih =>
      by_cases first_eq : first = item
      · rw [first_eq, take_succ_cons, erase_cons_head, erase_cons_head]
      · have other : ¬(first == item) = true := by simpa using first_eq
        rw [take_succ_cons, mem_cons] at taken
        have taken := taken.resolve_left (Ne.symm first_eq)
        rcases count with _ | count
        · contradiction
        · rw [take_succ_cons, erase_cons_tail other, erase_cons_tail other, take_succ_cons,
            ih taken]

theorem dedup_concat [DecidableEq α] (items : List α) (item : α) :
    (items ++ [item]).dedup = items.dedup.filter (· ≠ item) ++ [item] := by
  induction items with
  | nil => rfl
  | cons first items ih =>
      rw [cons_append, dedup_cons, dedup_cons, ih]
      by_cases first_eq : first = item
      · subst first_eq
        by_cases mem : first ∈ items
        · simp [mem]
        · simp [mem]
      · by_cases mem : first ∈ items
        · simp [mem]
        · simp [mem, first_eq]

end List

namespace StationMesh.History.Seen

variable {capacity : Nat} {seen : Seen capacity} {call : Sighting} {calls : List Sighting}

/-- Every sighting has a place. -/
def Within (seen : Seen capacity) : Prop := seen.length ≤ capacity

theorem within_empty : ({} : Seen capacity).Within := Nat.zero_le capacity

theorem within_observe {seen : Seen capacity} (within : seen.Within) (station : UInt8) (now : Nat) :
    (seen.observe station now).Within := by
  unfold Within observe at *
  split
  · simpa [length] using within
  · split
    · rename_i room
      simpa [length] using Nat.succ_le_of_lt room
    · simpa [length] using within

theorem contains_iff (station : UInt8) (seen : Seen capacity) :
    seen.contains station = true ↔ station ∈ seen.sightings.map Sighting.station := by
  simp [contains]

/-- Notes stations, each at the time it was heard. -/
def observeAll (calls : List Sighting) (seen : Seen capacity) : Seen capacity :=
  calls.foldl (fun seen call => seen.observe call.station call.time) seen

theorem observeAll_concat (calls : List Sighting) (call : Sighting) (seen : Seen capacity) :
    seen.observeAll (calls ++ [call]) =
      (seen.observeAll calls).observe call.station call.time :=
  List.foldl_concat ..

/-! ### One sighting -/

/-- A scan for the oldest sighting goes past the sightings in `former` and has found none among them
that is older than the best one. -/
theorem stalestFrom_spec (now : Nat) {former rest : List Sighting} {best bestAge : Nat}
    (inside : best < (former ++ rest).length)
    (bestAge_le : bestAge ≤ (former ++ rest)[best].age now)
    (former_le : ∀ sighting ∈ former, sighting.age now ≤ bestAge) :
    ∃ found : stalestFrom now former.length best bestAge rest < (former ++ rest).length,
      ∀ sighting ∈ former ++ rest, sighting.age now ≤
        (former ++ rest)[stalestFrom now former.length best bestAge rest].age now := by
  induction rest generalizing former best bestAge with
  | nil =>
      refine ⟨inside, ?_⟩
      intro sighting mem
      rw [List.append_nil] at mem
      exact Nat.le_trans (former_le sighting mem) bestAge_le
  | cons sighting rest ih =>
      have split_eq : former ++ sighting :: rest = (former ++ [sighting]) ++ rest := by simp
      have place_eq : former.length + 1 = (former ++ [sighting]).length := by simp
      simp only [stalestFrom, place_eq]
      simp only [split_eq] at inside bestAge_le ⊢
      split
      · rename_i older
        apply ih
        · simp
        · intro other mem
          rcases List.mem_append.mp mem with mem | mem
          · exact Nat.le_of_lt (Nat.lt_of_le_of_lt (former_le other mem) older)
          · rw [List.mem_singleton.mp mem]
        · simp
      · rename_i notOlder
        apply ih inside bestAge_le
        intro other mem
        rcases List.mem_append.mp mem with mem | mem
        · exact former_le other mem
        · rw [List.mem_singleton.mp mem]
          exact Nat.le_of_not_lt notOlder

theorem stalest_spec (now : Nat) (nonempty : 0 < seen.sightings.length) :
    ∃ found : seen.stalest now < seen.sightings.length,
      ∀ sighting ∈ seen.sightings, sighting.age now ≤ seen.sightings[seen.stalest now].age now :=
  @stalestFrom_spec now [] seen.sightings 0 0 nonempty (Nat.zero_le _) (by simp)

/-- What a sighting does to the stations that have a place. -/
inductive Notes (call : Sighting) (before after : Seen capacity) : Prop
  /-- The station had a place. It keeps it and has a new time. -/
  | again (earlier : Sighting) (mem : earlier ∈ before.sightings)
      (same : earlier.station = call.station)
      (places : after.sightings.map Sighting.station = before.sightings.map Sighting.station)
      (noted : after.sightings.Perm (call :: before.sightings.erase earlier))
  /-- The station is new and there was a free place. -/
  | first (new : before.contains call.station = false) (free : before.length < capacity)
      (noted : after.sightings.Perm (call :: before.sightings))
  /-- The station is new and there was no free place. One that is not younger than any other gives
  way to it. -/
  | instead (new : before.contains call.station = false) (full : before.length = capacity)
      (oldest : Sighting) (mem : oldest ∈ before.sightings)
      (age_le : ∀ sighting ∈ before.sightings, sighting.age call.time ≤ oldest.age call.time)
      (noted : after.sightings.Perm (call :: before.sightings.erase oldest))

/-- Each station has one place at most, and there are no more of them than there may be. -/
structure Sound (seen : Seen capacity) : Prop where
  nodup : (seen.sightings.map Sighting.station).Nodup
  within : seen.Within

theorem sound_empty : ({} : Seen capacity).Sound := ⟨List.nodup_nil, within_empty⟩

/-- The stations in the places stay, since only times change. -/
theorem notes_again (sound : seen.Sound) (held : seen.contains call.station = true) :
    Notes call seen (seen.observe call.station call.time) := by
  rw [contains_iff] at held
  rcases List.mem_map.mp held with ⟨earlier, mem, same⟩
  have split_perm := List.perm_cons_erase mem
  have nodup := (split_perm.map Sighting.station).nodup_iff.mp sound.nodup
  rw [List.map_cons, List.nodup_cons, same] at nodup
  have observe_eq : (seen.observe call.station call.time).sightings =
      seen.sightings.map fun sighting => if sighting.station = call.station
        then { sighting with time := call.time } else sighting := by
    rw [observe, if_pos ((contains_iff _ _).mpr held)]
  refine .again earlier mem same ?_ ?_
  · rw [observe_eq, List.map_map]
    apply List.map_congr_left
    intro sighting _
    dsimp only [Function.comp]
    split <;> rfl
  · have refreshed := split_perm.map fun sighting => if sighting.station = call.station
        then { sighting with time := call.time } else sighting
    have earlier_eq : { earlier with time := call.time } = call := by rw [same]
    have others : ((seen.sightings.erase earlier).map fun sighting =>
        if sighting.station = call.station then { sighting with time := call.time }
        else sighting) = seen.sightings.erase earlier := by
      conv_rhs => rw [← List.map_id (seen.sightings.erase earlier)]
      apply List.map_congr_left
      intro sighting kept
      exact if_neg fun same => nodup.1 (List.mem_map.mpr ⟨sighting, kept, same⟩)
    rw [List.map_cons, if_pos same, earlier_eq, others] at refreshed
    rw [observe_eq]
    exact refreshed

theorem notes_first (new : seen.contains call.station = false) (free : seen.length < capacity) :
    Notes call seen (seen.observe call.station call.time) := by
  refine .first new free ?_
  rw [observe, new, if_neg Bool.false_ne_true, if_pos free]
  exact List.perm_append_singleton _ _

theorem notes_instead (positive : 0 < capacity) (new : seen.contains call.station = false)
    (full : seen.length = capacity) :
    Notes call seen (seen.observe call.station call.time) := by
  have nonempty : 0 < seen.sightings.length := Nat.lt_of_lt_of_eq positive full.symm
  rcases stalest_spec call.time nonempty with ⟨found, age_le⟩
  refine .instead new full _ (List.getElem_mem found) age_le ?_
  rw [observe, new, if_neg Bool.false_ne_true, if_neg (Nat.not_lt_of_ge (Nat.le_of_eq full.symm))]
  exact (List.set_perm_cons_eraseIdx found call).trans
    ((List.erase_getElem found).symm.cons call)

theorem notes_observe (positive : 0 < capacity) (sound : seen.Sound) (call : Sighting) :
    Notes call seen (seen.observe call.station call.time) := by
  cases held : seen.contains call.station with
  | true => exact notes_again sound held
  | false =>
      rcases Nat.lt_or_eq_of_le sound.within with free | full
      · exact notes_first held free
      · exact notes_instead positive held full

theorem sound_observe (positive : 0 < capacity) (sound : seen.Sound) (call : Sighting) :
    (seen.observe call.station call.time).Sound := by
  refine ⟨?_, within_observe sound.within call.station call.time⟩
  have fresh (new : seen.contains call.station = false) :
      call.station ∉ seen.sightings.map Sighting.station := by
    rw [← contains_iff, new]
    exact Bool.false_ne_true
  cases notes_observe positive sound call with
  | again earlier mem same places noted =>
      rw [places]
      exact sound.nodup
  | first new free noted =>
      rw [(noted.map Sighting.station).nodup_iff]
      exact List.nodup_cons.mpr ⟨fresh new, sound.nodup⟩
  | instead new full oldest mem age_le noted =>
      rw [(noted.map Sighting.station).nodup_iff]
      have fewer := (seen.sightings.erase_sublist (a := oldest)).map Sighting.station
      exact List.nodup_cons.mpr
        ⟨fun kept => fresh new (fewer.subset kept), fewer.nodup sound.nodup⟩

theorem sound_observeAll (positive : 0 < capacity) (sound : seen.Sound) (calls : List Sighting) :
    (seen.observeAll calls).Sound := by
  induction calls generalizing seen with
  | nil => exact sound
  | cons call calls ih => exact ih (sound_observe positive sound call)

/-! ### The last sightings -/

/-- The last sighting of each station, the latest first. -/
def lately (calls : List Sighting) : List Sighting :=
  calls.foldl (fun recent call => call :: recent.filter (·.station ≠ call.station)) []

theorem lately_concat (calls : List Sighting) (call : Sighting) :
    lately (calls ++ [call]) = call :: (lately calls).filter (·.station ≠ call.station) :=
  List.foldl_concat ..

theorem map_station_lately (calls : List Sighting) :
    (lately calls).map Sighting.station = (calls.map Sighting.station).dedup.reverse := by
  induction calls using List.reverseRecOn with
  | nil => rfl
  | append_singleton calls call ih =>
      have filter_eq : ((lately calls).filter (·.station ≠ call.station)).map Sighting.station =
          ((lately calls).map Sighting.station).filter (· ≠ call.station) := by
        rw [List.filter_map]
        rfl
      rw [lately_concat, List.map_cons, filter_eq, ih, List.map_append, List.map_singleton,
        List.dedup_concat, List.reverse_append, List.filter_reverse]
      rfl

theorem last_of_mem_lately {sighting : Sighting} (mem : sighting ∈ lately calls) :
    (calls.filter (·.station = sighting.station)).getLast? = some sighting := by
  induction calls using List.reverseRecOn with
  | nil => contradiction
  | append_singleton calls call ih =>
      rw [lately_concat, List.mem_cons, List.mem_filter] at mem
      rw [List.filter_append]
      rcases mem with rfl | ⟨mem, other⟩
      · have kept : [sighting].filter (·.station = sighting.station) = [sighting] := by simp
        rw [kept, List.getLast?_concat]
      · have other : call.station ≠ sighting.station := Ne.symm (of_decide_eq_true other)
        have dropped : [call].filter (·.station = sighting.station) = [] := by simp [other]
        rw [dropped, List.append_nil]
        exact ih mem

theorem mem_of_mem_lately {sighting : Sighting} (mem : sighting ∈ lately calls) :
    sighting ∈ calls :=
  List.mem_of_mem_filter (List.mem_of_getLast? (last_of_mem_lately mem))

theorem pairwise_lately (ordered : calls.Pairwise (·.time < ·.time)) :
    (lately calls).Pairwise (fun later earlier => earlier.time < later.time) := by
  induction calls using List.reverseRecOn with
  | nil => exact List.Pairwise.nil
  | append_singleton calls call ih =>
      rw [List.pairwise_append] at ordered
      rcases ordered with ⟨ordered, _, before⟩
      rw [lately_concat, List.pairwise_cons]
      refine ⟨?_, (ih ordered).filter _⟩
      intro sighting mem
      have mem := mem_of_mem_lately (List.mem_of_mem_filter mem)
      exact before sighting mem call (List.mem_singleton_self call)

theorem nodup_station_lately (calls : List Sighting) :
    ((lately calls).map Sighting.station).Nodup := by
  rw [map_station_lately]
  exact List.nodup_reverse.mpr (List.nodup_dedup _)

/-! ### Some of the last sightings -/

section Recent

variable {recent : List Sighting} {count : Nat}

theorem filter_eq_erase {earlier : Sighting} (nodup : (recent.map Sighting.station).Nodup)
    (mem : earlier ∈ recent) (same : earlier.station = call.station) :
    recent.filter (·.station ≠ call.station) = recent.erase earlier := by
  rw [(List.Nodup.of_map _ nodup).erase_eq_filter]
  apply List.filter_congr
  intro sighting kept
  have station_iff : sighting.station = call.station ↔ sighting = earlier := by
    rw [← same]
    exact ⟨List.inj_on_of_nodup_map nodup kept mem, congrArg Sighting.station⟩
  rw [Bool.eq_iff_iff]
  simp [station_iff]

theorem take_filter_eq (new : call.station ∉ (recent.take (count + 1)).map Sighting.station) :
    (recent.filter (·.station ≠ call.station)).take count = recent.take count := by
  apply List.take_filter_of_forall_mem_take
  intro sighting mem
  have held := List.take_subset_take_left recent (Nat.le_succ count) mem
  exact decide_eq_true fun same => new (List.mem_map.mpr ⟨sighting, held, same⟩)

/-- With time going on, the oldest sighting is the last one. -/
theorem erase_eq_take {oldest : Sighting} {now : Nat} (length_eq : recent.length = count + 1)
    (ordered : recent.Pairwise (fun later earlier => earlier.time < later.time))
    (past : ∀ sighting ∈ recent, sighting.time < now) (mem : oldest ∈ recent)
    (age_le : ∀ sighting ∈ recent, sighting.age now ≤ oldest.age now) :
    recent.erase oldest = recent.take count := by
  rcases recent.eq_nil_or_concat' with rfl | ⟨younger, last, rfl⟩
  · contradiction
  have before := (List.pairwise_append.mp ordered).2.2
  have last_mem : last ∈ younger ++ [last] := by simp
  have oldest_eq : oldest = last := by
    rcases List.mem_append.mp mem with mem | mem
    · have last_lt := before oldest mem last (List.mem_singleton_self last)
      have oldest_lt := past oldest (List.mem_append_left _ mem)
      have last_age_le := age_le last last_mem
      simp only [Sighting.age] at last_age_le
      omega
    · exact List.mem_singleton.mp mem
  have last_notMem : last ∉ younger := by
    intro mem
    exact Nat.lt_irrefl _ (before last mem last (List.mem_singleton_self last))
  rw [List.length_append, List.length_singleton, Nat.add_right_cancel_iff] at length_eq
  rw [oldest_eq, List.erase_append_right _ last_notMem, List.erase_cons_head, List.append_nil,
    List.take_left' length_eq]

end Recent

/-- The sightings that have a place are the latest ones, and so they are behind the next one. If a
sighting has to go, it is the last of these. -/
theorem perm_lately_concat (positive : 0 < capacity) (sound : seen.Sound)
    (ordered : (calls ++ [call]).Pairwise (·.time < ·.time))
    (retained : seen.sightings.Perm ((lately calls).take capacity)) :
    (seen.observe call.station call.time).sightings.Perm
      ((lately (calls ++ [call])).take capacity) := by
  rcases capacity with _ | count
  · contradiction
  rw [List.pairwise_append] at ordered
  rcases ordered with ⟨ordered, _, before⟩
  have length_eq := retained.length_eq
  have untouched (new : seen.contains call.station = false) :
      ((lately calls).filter (·.station ≠ call.station)).take count =
        (lately calls).take count := by
    apply take_filter_eq
    rw [← (retained.map Sighting.station).mem_iff, ← contains_iff, new]
    exact Bool.false_ne_true
  rw [lately_concat, List.take_succ_cons]
  cases notes_observe positive sound call with
  | again earlier mem same places noted =>
      have taken := retained.mem_iff.mp mem
      rw [filter_eq_erase (nodup_station_lately calls) (List.mem_of_mem_take taken) same,
        List.take_erase_of_mem_take taken]
      exact noted.trans ((retained.erase earlier).cons call)
  | first new free noted =>
      have few : (lately calls).length ≤ count := by
        rw [List.length_take] at length_eq
        simp only [length] at free
        omega
      rw [List.take_of_length_le (Nat.le_succ_of_le few)] at retained
      rw [untouched new, List.take_of_length_le few]
      exact noted.trans (retained.cons call)
  | instead new full oldest mem age_le noted =>
      have latest := (pairwise_lately ordered).sublist (List.take_sublist (count + 1) _)
      have past (sighting : Sighting) (mem : sighting ∈ (lately calls).take (count + 1)) :
          sighting.time < call.time :=
        before sighting (mem_of_mem_lately (List.mem_of_mem_take mem)) call
          (List.mem_singleton_self call)
      have erase_eq := erase_eq_take (length_eq.symm.trans full) latest past
        (retained.mem_iff.mp mem) fun sighting mem => age_le sighting (retained.mem_iff.mpr mem)
      rw [List.take_take, Nat.min_eq_left (Nat.le_succ count)] at erase_eq
      rw [untouched new, ← erase_eq]
      exact noted.trans ((retained.erase oldest).cons call)

theorem perm_lately (positive : 0 < capacity) (ordered : calls.Pairwise (·.time < ·.time)) :
    (({} : Seen capacity).observeAll calls).sightings.Perm ((lately calls).take capacity) := by
  induction calls using List.reverseRecOn with
  | nil =>
      have nothing : (lately []).take capacity = [] := List.take_nil
      rw [nothing]
      exact .nil
  | append_singleton calls call ih =>
      rw [observeAll_concat]
      have retained := ih (List.pairwise_append.mp ordered).1
      exact perm_lately_concat positive (sound_observeAll positive sound_empty calls) ordered
        retained

/-- However time runs, each station has at most one place, there are no more places than there may
be, and one more sighting does what is noted of it. If time goes on from one sighting to the next,
the stations that have a place are those heard of last, each with its last sighting. -/
theorem retains_latest (positive : 0 < capacity) (calls : List Sighting) :
    let seen := ({} : Seen capacity).observeAll calls
    (seen.sightings.map Sighting.station).Nodup ∧ seen.length ≤ capacity ∧
      (∀ call : Sighting, Notes call seen (seen.observe call.station call.time)) ∧
      (calls.Pairwise (·.time < ·.time) →
        (∀ station, seen.contains station = true ↔
          station ∈ (calls.map Sighting.station).dedup.rtake capacity) ∧
        ∀ sighting ∈ seen.sightings,
          (calls.filter (·.station = sighting.station)).getLast? = some sighting) := by
  intro seen
  have sound : seen.Sound := sound_observeAll positive sound_empty calls
  refine ⟨sound.nodup, sound.within, notes_observe positive sound, ?_⟩
  intro ordered
  have retained := perm_lately positive ordered
  constructor
  · intro station
    rw [contains_iff, (retained.map Sighting.station).mem_iff, List.map_take, map_station_lately,
      List.rtake_eq_reverse_take_reverse, List.mem_reverse]
  · intro sighting mem
    exact last_of_mem_lately (List.mem_of_mem_take (retained.mem_iff.mp mem))

/-- A station that was heard of again stays, and the one in between gives way. Then the clock is set
back. -/
theorem retains_latest_heardAgain :
    let calls : List Sighting := [⟨4, 10⟩, ⟨5, 20⟩, ⟨4, 30⟩, ⟨6, 40⟩]
    let seen := ({} : Seen 2).observeAll calls
    calls.Pairwise (·.time < ·.time) ∧
      (∀ station, seen.contains station = true ↔ station ∈ ([4, 6] : List UInt8)) ∧
      (∀ sighting ∈ seen.sightings,
        (calls.filter (·.station = sighting.station)).getLast? = some sighting) ∧
      Notes ⟨5, 0⟩ seen (seen.observe 5 0) := by
  intro calls seen
  have ordered : calls.Pairwise (·.time < ·.time) := by decide
  have positive : 0 < 2 := by decide
  rcases retains_latest positive calls with ⟨_, _, notes, latest⟩
  exact ⟨ordered, (latest ordered).1, (latest ordered).2, notes ⟨5, 0⟩⟩

end StationMesh.History.Seen
