import Mathlib.Data.List.DropRight
import Mathlib.Data.List.ReduceOption
import Mathlib.Data.List.Rotate
import StationMesh.Proofs.History.Ring

/-!
# A ring in slots

A ring takes no more room than one slot for each value it can hold. The values go into one slot
after the other, and behind the last slot the first one comes again, so that a new value takes the
slot of the oldest one. Read from the slot that is written to next, the slots hold the values from
the oldest to the newest one, which is how they are tied to the ring.
-/

namespace StationMesh.History

/-- The slots of a ring. -/
structure Slots (α : Type) (capacity : Nat) where
  /-- What is in the slots; those that were not written to yet are empty. -/
  entries : List (Option α) := List.replicate capacity none
  /-- The slot that is written to next. -/
  next : Nat := 0
deriving DecidableEq, Repr

variable {α : Type} {capacity : Nat}

namespace Slots

/-- Writes a value to the next slot; a ring without slots stays empty. -/
def record (value : α) (slots : Slots α capacity) : Slots α capacity :=
  if capacity = 0 then
    slots
  else
    { entries := slots.entries.set slots.next (some value)
      next := (slots.next + 1) % capacity }

/-- Some slot holds the value. -/
def contains [BEq α] (value : α) (slots : Slots α capacity) : Bool :=
  slots.entries.reduceOption.any (· == value)

/-- How many slots were written to. -/
def length (slots : Slots α capacity) : Nat := slots.entries.reduceOption.length

/-- Records some values, one after the other. -/
def recordAll (values : List α) (slots : Slots α capacity) : Slots α capacity :=
  values.foldl (fun slots value => slots.record value) slots

/-- The slots, from the one on that is written to next. -/
def turned (slots : Slots α capacity) : List (Option α) := slots.entries.rotate slots.next

/-- What is written to a place comes to the end if the list is turned to the place behind it. -/
theorem rotate_set {entries : List α} {place : Nat} (place_lt : place < entries.length)
    (value : α) :
    (entries.set place value).rotate (place + 1) = (entries.rotate place).tail ++ [value] := by
  rcases List.exists_of_set place_lt with ⟨front, back, split, rfl, set_eq⟩
  generalize entries[front.length] = former at split
  subst split
  have turned_eq := List.rotate_append_length_eq front (former :: back)
  have written_eq := List.rotate_append_length_eq (front ++ [value]) back
  rw [List.append_assoc, List.length_append] at written_eq
  rw [set_eq, turned_eq, List.cons_append, List.tail_cons, List.append_assoc]
  exact written_eq

/-- The slot that is written to comes to the end, also if it is the last one of all. -/
theorem turned_record {slots : Slots α capacity} (length_eq : slots.entries.length = capacity)
    (next_lt : slots.next < capacity) (value : α) :
    (slots.record value).turned = slots.turned.tail ++ [some value] := by
  have nonempty : capacity ≠ 0 := Nat.ne_zero_of_lt next_lt
  have written_length : (slots.entries.set slots.next (some value)).length = capacity := by
    rw [List.length_set, length_eq]
  calc (slots.record value).turned
      = (slots.entries.set slots.next (some value)).rotate ((slots.next + 1) % capacity) := by
        rw [turned, record, if_neg nonempty]
    _ = (slots.entries.set slots.next (some value)).rotate (slots.next + 1) := by
        rw [← List.rotate_mod _ (slots.next + 1), written_length]
    _ = slots.turned.tail ++ [some value] := rotate_set (by rwa [length_eq]) (some value)

theorem tail_rtake_succ {values : List α} {count : Nat} (lt : count < values.length) :
    (values.rtake (count + 1)).tail = values.rtake count := by
  rw [List.rtake, List.rtake, List.tail_drop]
  congr 1
  omega

/-- These values went into the slots: from the one on that is written to next, the slots are what
comes last of as many empty slots and all the values. -/
structure Holds (values : List α) (slots : Slots α capacity) : Prop where
  length_eq : slots.entries.length = capacity
  next_lt : 0 < capacity → slots.next < capacity
  turned_eq : slots.turned =
    (List.replicate capacity none ++ values.map some).rtake capacity

theorem holds_nil : Holds [] ({} : Slots α capacity) where
  length_eq := List.length_replicate
  next_lt := id
  turned_eq := by simp [turned, List.rtake]

namespace Holds

variable {values : List α} {slots : Slots α capacity}

theorem record (holds : Holds values slots) (value : α) :
    Holds (values ++ [value]) (slots.record value) := by
  cases capacity with
  | zero =>
      refine ⟨holds.length_eq, fun impossible => absurd impossible (Nat.lt_irrefl 0), ?_⟩
      rw [List.rtake_zero, Slots.record, if_pos rfl, holds.turned_eq, List.rtake_zero]
  | succ count =>
      have positive : 0 < count + 1 := Nat.succ_pos count
      refine ⟨?_, ?_, ?_⟩
      · rw [Slots.record, if_neg (Nat.succ_ne_zero count), List.length_set, holds.length_eq]
      · intro _
        rw [Slots.record, if_neg (Nat.succ_ne_zero count)]
        exact Nat.mod_lt _ positive
      · have enough : count < (List.replicate (count + 1) none ++ values.map some).length := by
          simp only [List.length_append, List.length_replicate]
          omega
        rw [turned_record holds.length_eq (holds.next_lt positive), holds.turned_eq,
          tail_rtake_succ enough, List.map_append, List.map_singleton, ← List.append_assoc,
          List.rtake_concat_succ]

/-- Whatever their order is, the slots hold the latest values and nothing else. -/
theorem perm (holds : Holds values slots) :
    slots.entries.reduceOption.Perm (values.rtake capacity) := by
  -- The slots that are still empty come first, and there is nothing in them.
  have turned_eq : slots.turned.reduceOption = values.rtake capacity := by
    rw [holds.turned_eq, List.rtake, List.length_append, List.length_replicate, List.length_map,
      Nat.add_sub_cancel_left, List.drop_append, List.drop_replicate, List.length_replicate,
      List.reduceOption_append, List.reduceOption_replicate_none, List.nil_append, ← List.map_drop]
    simp [List.reduceOption, List.rtake]
  rw [← turned_eq]
  exact (List.rotate_perm slots.entries slots.next).symm.filterMap id

end Holds

theorem holds_recordAll (values : List α) :
    Holds values (({} : Slots α capacity).recordAll values) := by
  induction values using List.reverseRecOn with
  | nil => exact holds_nil
  | append_singleton values value ih =>
      rw [recordAll, List.foldl_concat]
      exact ih.record value

end Slots

/-- Whatever is recorded in a ring that was empty, it remembers the latest values. -/
theorem Ring.recent_recordAll (values : List α) :
    (({} : Ring α capacity).recordAll values).recent = (values.rtake capacity).reverse := by
  rw [List.rtake_eq_reverse_take_reverse, List.reverse_reverse]
  cases values with
  | nil => simp [recordAll]
  | cons value values =>
      rw [List.reverse_cons]
      exact recent_recordAll_record value values {}

theorem length_rtake (count : Nat) (values : List α) :
    (values.rtake count).length = min count values.length := by
  rw [List.rtake, List.length_drop]
  omega

/-- A ring remembers the latest values, as many as it has room for, whether it is a list of them or
keeps them in slots that are written to in turn. It is the same with the commands handled before,
where the id 0 does not count and is never found. -/
theorem remembers_latest (capacity : Nat) :
    (∀ (α : Type) [DecidableEq α] (values : List α),
      let ring := ({} : Ring α capacity).recordAll values
      (∀ value, ring.contains value = true ↔ value ∈ values.rtake capacity) ∧
        ring.length = min capacity values.length) ∧
    (∀ (α : Type) [BEq α] (values : List α),
      let slots := ({} : Slots α capacity).recordAll values
      (∀ value, slots.contains value = (values.rtake capacity).any (· == value)) ∧
        slots.length = min capacity values.length) ∧
    ∀ uids : List UInt8,
      let handled := ({} : Handled capacity).recordAll uids
      let counted := uids.filter (· ≠ 0)
      (∀ uid, handled.contains uid = true ↔ uid ∈ counted.rtake capacity) ∧
        handled.contains 0 = false ∧ handled.length = min capacity counted.length := by
  refine ⟨?_, ?_, ?_⟩
  · intro α _ values ring
    have recent_eq : ring.recent = (values.rtake capacity).reverse := Ring.recent_recordAll values
    refine ⟨?_, ?_⟩
    · intro value
      rw [Ring.contains, recent_eq, decide_eq_true_iff, List.mem_reverse]
    · rw [Ring.length, recent_eq, List.length_reverse, length_rtake]
  · intro α _ values slots
    have perm : slots.entries.reduceOption.Perm (values.rtake capacity) :=
      (Slots.holds_recordAll values).perm
    refine ⟨?_, ?_⟩
    · intro value
      exact perm.any_eq
    · rw [Slots.length, perm.length_eq, length_rtake]
  · intro uids handled counted
    have recent_eq : handled.ring.recent = (counted.rtake capacity).reverse := by
      rw [Handled.ring_recordAll]
      exact Ring.recent_recordAll counted
    refine ⟨?_, rfl, ?_⟩
    · intro uid
      have counted_ne (mem : uid ∈ counted.rtake capacity) : uid ≠ 0 := by
        have counts := List.of_mem_filter (List.mem_of_mem_drop mem)
        exact of_decide_eq_true counts
      rw [Handled.contains, Ring.contains, recent_eq]
      simp only [Bool.and_eq_true, decide_eq_true_iff, List.mem_reverse]
      exact ⟨And.right, fun mem => ⟨counted_ne mem, mem⟩⟩
    · rw [Handled.length, Ring.length, recent_eq, List.length_reverse, length_rtake]

/-- The fourth value takes the slot of the first one. -/
example : ({} : Slots UInt8 3).recordAll [1, 2, 3, 4] =
    { entries := [some 4, some 2, some 3], next := 1 } := by decide

end StationMesh.History
