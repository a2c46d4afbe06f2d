import Mathlib.Data.List.Basic

/-!
# Steady clocks

A clock that follows a source forwards but not backwards: each reading is later than the one
before it by the advance of the source, which is nothing when the source jumps back.
-/
namespace Udp2raw

namespace SteadyClock

variable (last value : Nat)

/-- The readings for these readings of the source, after a reading `value` at `last`. -/
def readings (last value : Nat) : List Nat → List Nat
  | [] => []
  | raw :: rest =>
    let next := value + (raw - last)
    next :: readings raw next rest

/-- There is a reading for each reading of the source. -/
@[simp] theorem length_readings (raws : List Nat) :
    (readings last value raws).length = raws.length := by
  induction raws generalizing last value with
  | nil => rfl
  | cons raw rest ih => simp [readings, ih]

/-- Each reading is later by the advance of the source. -/
theorem readings_succ (raws : List Nat) {i : Nat} (inside : i + 1 < raws.length)
    (read : i + 1 < (readings last value raws).length) :
    (readings last value raws)[i + 1] =
      (readings last value raws)[i] + (raws[i + 1] - raws[i]) := by
  induction raws generalizing last value i with
  | nil => simp at inside
  | cons raw rest ih =>
    cases i with
    | zero =>
      cases rest with
      | nil => simp at inside
      | cons second rest => rfl
    | succ i => exact ih raw (value + (raw - last)) (by simpa using inside) (by simpa using inside)

/-- No reading is earlier than the value before it. -/
theorem le_of_mem_readings {raws : List Nat} {reading : Nat}
    (inside : reading ∈ readings last value raws) : value ≤ reading := by
  induction raws generalizing last value with
  | nil => simp [readings] at inside
  | cons raw rest ih =>
    have forward : value ≤ value + (raw - last) := Nat.le_add_right _ _
    cases inside with
    | head => exact forward
    | tail _ inside => exact Nat.le_trans forward (ih _ _ inside)

/-- The readings never decrease. -/
theorem readings_pairwise (raws : List Nat) : (readings last value raws).Pairwise (· ≤ ·) := by
  induction raws generalizing last value with
  | nil => exact List.Pairwise.nil
  | cons raw rest ih =>
    exact List.pairwise_cons.mpr ⟨fun _ inside => le_of_mem_readings _ _ inside, ih _ _⟩

end SteadyClock

end Udp2raw
