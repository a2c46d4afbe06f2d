import Mathlib.Logic.Function.Basic
import Mathlib.Tactic.SplitIfs

/-!
# Ring queues

A queue in a ring of slots with one slot always free, which tells a full ring from an empty one.
What it contains is the list of the slots from its head to its tail. The free slot has a second
use: a pusher never writes the slot that was popped last.
-/
namespace Udp2raw

variable {n : Nat} {α : Type}

/-- A ring of slots, with the places of the first entry and of the next one. -/
structure Ring (n : Nat) (α : Type) where
  /-- The slots. -/
  slots : Fin n → α
  /-- The place of the first entry. -/
  head : Fin n
  /-- The place of the next entry. -/
  tail : Fin n

namespace Ring

/-- The next place of the ring. -/
def advance (place : Fin n) : Fin n :=
  ⟨(place.val + 1) % n, Nat.mod_lt _ (Nat.zero_lt_of_lt place.isLt)⟩

/-- The place at a distance, for distances below the length of the ring. -/
def place (start : Fin n) (distance : Nat) : Fin n :=
  ⟨(start.val + distance) % n, Nat.mod_lt _ (Nat.zero_lt_of_lt start.isLt)⟩

variable (ring : Ring n α)

/-- The ring has no entry. -/
def Empty : Prop := ring.head = ring.tail

/-- One more entry would make the ring look empty. -/
def Full : Prop := advance ring.tail = ring.head

instance : Decidable ring.Empty := inferInstanceAs (Decidable (_ = _))
instance : Decidable ring.Full := inferInstanceAs (Decidable (_ = _))

/-- The first entry. -/
def front : α := ring.slots ring.head

/-- The ring without its first entry, whose slot keeps its content. -/
def pop : Ring n α := { ring with head := advance ring.head }

/-- The ring with one more entry, which changes the content of its slot. -/
def push (change : α → α) : Ring n α :=
  { ring with
    slots := Function.update ring.slots ring.tail (change (ring.slots ring.tail))
    tail := advance ring.tail }

/-- The number of entries. -/
def size : Nat :=
  if ring.head.val ≤ ring.tail.val then ring.tail.val - ring.head.val
  else ring.tail.val + n - ring.head.val

/-- The entries, the first one first. -/
def contents : List α :=
  (List.range ring.size).map fun distance => ring.slots (place ring.head distance)

/-- The place after the last one is the first one. -/
theorem advance_val (place : Fin n) :
    (advance place).val = if place.val + 1 < n then place.val + 1 else 0 := by
  have inside := place.isLt
  simp only [advance]
  split_ifs with more
  · exact Nat.mod_eq_of_lt more
  · rw [show place.val + 1 = n by omega, Nat.mod_self]

/-- The place at a distance below the length of the ring. -/
theorem place_val (start : Fin n) {distance : Nat} (near : distance < n) :
    (place start distance).val =
      if start.val + distance < n then start.val + distance else start.val + distance - n := by
  have inside := start.isLt
  simp only [place]
  split_ifs with more
  · exact Nat.mod_eq_of_lt more
  · rw [Nat.mod_eq_sub_mod (Nat.not_lt.mp more), Nat.mod_eq_of_lt (by omega)]

/-- There is always a free slot. -/
theorem size_lt : ring.size < n := by
  have first := ring.head.isLt
  have last := ring.tail.isLt
  unfold size
  split_ifs <;> omega

/-- The contents are as many as the entries. -/
@[simp] theorem contents_length : ring.contents.length = ring.size := by simp [contents]

/-- A ring without entries is empty. -/
theorem empty_iff : ring.Empty ↔ ring.size = 0 := by
  have first := ring.head.isLt
  have last := ring.tail.isLt
  rw [Empty, Fin.ext_iff, size]
  split_ifs <;> omega

/-- A full ring has entries in all slots but one. -/
theorem full_iff : ring.Full ↔ ring.size + 1 = n := by
  have first := ring.head.isLt
  have last := ring.tail.isLt
  rw [Full, Fin.ext_iff, advance_val, size]
  split_ifs <;> omega

/-- The first place is the head. -/
theorem place_zero (start : Fin n) : place start 0 = start := by
  apply Fin.ext
  simp only [place, Nat.add_zero]
  exact Nat.mod_eq_of_lt start.isLt

/-- The places from the next one on. -/
theorem place_advance (start : Fin n) (distance : Nat) :
    place (advance start) distance = place start (distance + 1) := by
  apply Fin.ext
  simp only [place, advance, Nat.mod_add_mod]
  congr 1
  omega

/-- The tail is behind all entries. -/
theorem place_size : place ring.head ring.size = ring.tail := by
  have first := ring.head.isLt
  have last := ring.tail.isLt
  apply Fin.ext
  rw [place_val _ ring.size_lt, size]
  split_ifs <;> omega

/-- No entry is in the slot at the tail. -/
theorem place_ne_tail {distance : Nat} (inside : distance < ring.size) :
    place ring.head distance ≠ ring.tail := by
  have first := ring.head.isLt
  have last := ring.tail.isLt
  have room := ring.size_lt
  rw [ne_eq, Fin.ext_iff, place_val _ (Nat.lt_trans inside room)]
  unfold size at inside
  split_ifs at inside ⊢ <;> omega

/-- A push makes one more entry. -/
theorem size_push (change : α → α) (room : ¬ring.Full) :
    (ring.push change).size = ring.size + 1 := by
  have first := ring.head.isLt
  have last := ring.tail.isLt
  rw [Full, Fin.ext_iff, advance_val] at room
  simp only [size, push, advance_val]
  split_ifs at room ⊢ <;> omega

/-- A pop takes one entry. -/
theorem size_pop (some : ¬ring.Empty) : ring.pop.size + 1 = ring.size := by
  have first := ring.head.isLt
  have last := ring.tail.isLt
  rw [Empty, Fin.ext_iff] at some
  simp only [size, pop, advance_val]
  split_ifs <;> omega

/-- A push appends to the contents. -/
theorem contents_push (change : α → α) (room : ¬ring.Full) :
    (ring.push change).contents = ring.contents ++ [change (ring.slots ring.tail)] := by
  rw [contents, ring.size_push change room, List.range_succ, List.map_append, contents]
  congr 1
  · refine List.map_congr_left fun distance inside => ?_
    have other := ring.place_ne_tail (List.mem_range.mp inside)
    exact Function.update_of_ne other _ _
  · simp only [List.map_cons, List.map_nil, push, ring.place_size, Function.update_self]

/-- A pop takes the first entry off the contents. -/
theorem contents_pop (some : ¬ring.Empty) :
    ring.contents = ring.front :: ring.pop.contents := by
  have fewer := ring.size_pop some
  rw [contents, ← fewer, List.range_succ_eq_map, List.map_cons, place_zero, List.map_map, contents]
  congr 1
  refine List.map_congr_left fun distance _ => ?_
  simp only [Function.comp_apply, pop, place_advance]

/-- The slot before the head is not the one that the next push writes. -/
theorem push_before {last : Fin n} (before : advance last = ring.head) (room : ¬ring.Full)
    (change : α → α) : (ring.push change).slots last = ring.slots last := by
  have other : last ≠ ring.tail := by
    rintro rfl
    exact room before
  exact Function.update_of_ne other _ _

end Ring

end Udp2raw
