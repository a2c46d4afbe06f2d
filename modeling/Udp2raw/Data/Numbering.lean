import Mathlib.Algebra.Group.Nat.Defs
import Mathlib.Data.List.Induction
import Mathlib.Data.List.Nodup
import Mathlib.Logic.Function.Iterate

/-!
# Numbers from a counter

A counter gives out its present number and steps on. Under each key the numbers of a record
come from one counter, so no pair of a key and a number comes twice, as long as the counter
does not come back to a number.
-/
namespace Udp2raw

variable {κ ν : Type}

/-- A counter gave out these numbers, the latest one first, and gives out the next one now. -/
def GaveOut (step : ν → ν) : List ν → ν → Prop
  | [], _ => True
  | number :: earlier, next => step number = next ∧ GaveOut step earlier number

/-- The counter does not come back to a number within this many steps. -/
def NoReturn (step : ν → ν) (bound : Nat) : Prop :=
  ∀ steps number, 0 < steps → steps < bound → step^[steps] number ≠ number

/-- From every number that was given out the counter stepped on to the next one. -/
theorem GaveOut.iterate {step : ν → ν} {numbers : List ν} {next number : ν}
    (gaveOut : GaveOut step numbers next) (inside : number ∈ numbers) :
    ∃ steps, 0 < steps ∧ steps ≤ numbers.length ∧ step^[steps] number = next := by
  induction numbers generalizing next with
  | nil => contradiction
  | cons latest earlier ih =>
    obtain ⟨last, before⟩ := gaveOut
    obtain rfl | inside := List.mem_cons.mp inside
    · exact ⟨1, Nat.one_pos, by simp, last⟩
    · obtain ⟨steps, positive, few, came⟩ := ih before inside
      refine ⟨steps + 1, Nat.succ_pos steps, by simpa using few, ?_⟩
      rw [Function.iterate_succ_apply', came, last]

/-- A counter that does not come back gives out no number twice. -/
theorem GaveOut.nodup {step : ν → ν} {numbers : List ν} {next : ν} {bound : Nat}
    (noReturn : NoReturn step bound) (few : numbers.length ≤ bound)
    (gaveOut : GaveOut step numbers next) : numbers.Nodup := by
  induction numbers generalizing next with
  | nil => exact List.nodup_nil
  | cons latest earlier ih =>
    obtain ⟨-, before⟩ := gaveOut
    have fewer : earlier.length < bound := few
    refine List.nodup_cons.mpr ⟨fun again => ?_, ih (Nat.le_of_lt fewer) before⟩
    obtain ⟨steps, positive, short, came⟩ := before.iterate again
    exact noReturn steps latest positive (Nat.lt_of_le_of_lt short fewer) came

section Keys

variable [DecidableEq κ]

/-- The numbers of a key in a record, the latest one first. -/
def issued (key : κ) (calls : List (κ × ν)) : List ν :=
  ((calls.filter fun call => decide (call.1 = key)).map Prod.snd).reverse

/-- One more call. -/
theorem issued_concat (key : κ) (calls : List (κ × ν)) (call : κ × ν) :
    issued key (calls ++ [call]) =
      if call.1 = key then call.2 :: issued key calls else issued key calls := by
  unfold issued
  by_cases same : call.1 = key <;> simp [same]

/-- A number of a key is the number of a call. -/
theorem mem_issued {key : κ} {calls : List (κ × ν)} {number : ν} :
    number ∈ issued key calls ↔ (key, number) ∈ calls := by
  simp only [issued, List.mem_reverse, List.mem_map, List.mem_filter, decide_eq_true_eq]
  constructor
  · rintro ⟨⟨_, _⟩, ⟨inside, rfl⟩, rfl⟩
    exact inside
  · exact fun inside => ⟨_, ⟨inside, rfl⟩, rfl⟩

/-- There are at most as many numbers of a key as calls. -/
theorem issued_length (key : κ) (calls : List (κ × ν)) :
    (issued key calls).length ≤ calls.length := by
  rw [issued, List.length_reverse, List.length_map]
  exact List.length_filter_le _ _

/-- When no key has a number twice, no call comes twice. -/
theorem nodup_of_issued {calls : List (κ × ν)} (each : ∀ key, (issued key calls).Nodup) :
    calls.Nodup := by
  induction calls using List.reverseRecOn with
  | nil => exact List.nodup_nil
  | append_singleton calls call ih =>
    have last := each call.1
    rw [issued_concat, if_pos rfl] at last
    have fresh : call ∉ calls := fun again => (List.nodup_cons.mp last).1 (mem_issued.mpr again)
    refine List.nodup_append.mpr ⟨ih fun key => ?_, List.nodup_singleton _, ?_⟩
    · have whole := each key
      rw [issued_concat] at whole
      split at whole
      · exact (List.nodup_cons.mp whole).2
      · exact whole
    · rintro one inside other latest rfl
      rw [List.mem_singleton.mp latest] at inside
      exact fresh inside

end Keys

/-- A counter of sixty-four bits does not come back within 2^64 steps. -/
theorem noReturn_uint64 : NoReturn (fun number : UInt64 => number + 1) (2 ^ 64) := by
  have iterate : ∀ steps (number : UInt64),
      ((fun number : UInt64 => number + 1)^[steps] number).toNat =
        (number.toNat + steps) % 2 ^ 64 := by
    intro steps
    induction steps with
    | zero => exact fun number => (Nat.mod_eq_of_lt number.toNat_lt).symm
    | succ steps ih =>
      intro number
      rw [Function.iterate_succ_apply', UInt64.toNat_add, ih]
      simp only [UInt64.toNat_one]
      omega
  intro steps number positive few same
  have value := iterate steps number
  rw [same] at value
  have small := number.toNat_lt
  omega

end Udp2raw
