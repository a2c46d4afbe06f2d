import Mathlib.Data.List.MinMax
import Mathlib.Data.Nat.ModEq

/-!
# Sliding-window replay filters

A replay filter admits a number at most once, and only while it is less than a fixed
width below the largest number admitted so far. The definitions here speak about the
history of admitted numbers alone. An implementation that remembers one residue per
number of the current window stays exact because two numbers of one window never share
a residue.
-/
namespace Udp2raw.ReplayFilter

/-- A number is admissible after a history: it is new and inside the window. -/
def Admits (width : Nat) (accepted : List Nat) (number : Nat) : Prop :=
  number ∉ accepted ∧ ∀ earlier ∈ accepted, earlier < number + width

instance (width : Nat) (accepted : List Nat) (number : Nat) :
    Decidable (Admits width accepted number) := by
  unfold Admits
  infer_instance

/-- The window condition only concerns the largest number admitted so far. -/
theorem admits_iff_max (width : Nat) (accepted : List Nat) (number : Nat) :
    Admits width accepted number ↔
      number ∉ accepted ∧
        (accepted = [] ∨ ∃ largest, accepted.max? = some largest ∧ largest < number + width) := by
  refine and_congr_right fun _ => ?_
  cases found : accepted.max? with
  | none =>
    have empty := List.max?_eq_none_iff.mp found
    simp [empty]
  | some largest =>
    obtain ⟨member, above⟩ := List.max?_eq_some_iff.mp found
    constructor
    · intro inside
      exact Or.inr ⟨largest, rfl, inside largest member⟩
    · rintro (empty | ⟨same, found, inside⟩)
      · simp [empty] at member
      · obtain rfl := Option.some.inj found
        intro earlier present
        exact Nat.lt_of_le_of_lt (above earlier present) inside

/-- Two numbers less than one width apart with one residue are the same number. -/
theorem residue_injective {width low high : Nat} (ordered : low ≤ high)
    (close : high < low + width) (same : low % width = high % width) : low = high := by
  have multiple : (high - low) % width = 0 := Nat.sub_mod_eq_zero_of_mod_eq same.symm
  rw [Nat.mod_eq_of_lt (by omega)] at multiple
  omega

end Udp2raw.ReplayFilter
