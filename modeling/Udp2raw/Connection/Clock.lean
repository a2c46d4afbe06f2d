import Udp2raw.Connection.ConvTable
import Udp2raw.Data.SteadyClock

/-!
# The adjusted clock

`get_current_time_us` in the arithmetic of the source, its agreement with the clock of a process,
and what its readings satisfy: a steady clock, which no assertion on timestamps and no difference
of times can catch going backwards.
-/
namespace Udp2raw

open Proc

variable {v : IpVersion} {κ : Type} [DecidableEq κ]

/-! ### The source -/

/-- The static variables of `get_current_time_us`. -/
structure ClockStatics where
  /-- `value_fix`. -/
  valueFix : UInt64
  /-- `largest_value`. -/
  largestValue : UInt64
  deriving DecidableEq

namespace ClockStatics

/-- Before the first call. -/
def initial : ClockStatics := ⟨0, 0⟩

/-- `get_current_time_us` on a raw value. -/
def getCurrentTimeUs (statics : ClockStatics) (rawValue : UInt64) : ClockStatics × UInt64 :=
  let fixedValue := rawValue + statics.valueFix
  let statics :=
    if fixedValue < statics.largestValue then
      { statics with valueFix := statics.valueFix + (statics.largestValue - fixedValue) }
    else { statics with largestValue := fixedValue }
  (statics, rawValue + statics.valueFix)

/-- The values that successive calls return. -/
def returned (statics : ClockStatics) : List UInt64 → List UInt64
  | [] => []
  | rawValue :: rest =>
    let (statics, value) := statics.getCurrentTimeUs rawValue
    value :: statics.returned rest

/-- The fixed value of a call does not overflow. The other sums of the call are then at most the
largest value. -/
def Fits (statics : ClockStatics) (rawValue : UInt64) : Prop :=
  rawValue.toNat + statics.valueFix.toNat < 2 ^ 64

/-- No fixed value of the successive calls overflows. -/
def NoOverflow (statics : ClockStatics) : List UInt64 → Prop
  | [] => True
  | rawValue :: rest =>
    statics.Fits rawValue ∧ (statics.getCurrentTimeUs rawValue).1.NoOverflow rest

/-- The last call was for a raw value: its returned value was the largest. -/
def After (statics : ClockStatics) (last : Nat) : Prop :=
  last + statics.valueFix.toNat = statics.largestValue.toNat

variable {statics : ClockStatics} {rawValue : UInt64} {last : Nat}

/-- One call advances the largest value by the advance of the raw value, and returns it. -/
theorem getCurrentTimeUs_step (invariant : statics.After last) (fits : statics.Fits rawValue) :
    let result := statics.getCurrentTimeUs rawValue
    result.1.After rawValue.toNat ∧ result.2 = result.1.largestValue ∧
      result.1.largestValue.toNat = statics.largestValue.toNat + (rawValue.toNat - last) := by
  have small := statics.largestValue.toNat_lt
  have fixed : (rawValue + statics.valueFix).toNat =
      rawValue.toNat + statics.valueFix.toNat := by
    rw [UInt64.toNat_add, Nat.mod_eq_of_lt fits]
  unfold After at invariant
  by_cases behind : rawValue + statics.valueFix < statics.largestValue
  · have less := UInt64.lt_iff_toNat_lt.mp behind
    have gap : (statics.largestValue - (rawValue + statics.valueFix)).toNat =
        statics.largestValue.toNat - (rawValue.toNat + statics.valueFix.toNat) := by
      rw [UInt64.toNat_sub_of_le _ _ (Nat.le_of_lt less), fixed]
    have fix : (statics.valueFix + (statics.largestValue - (rawValue + statics.valueFix))).toNat =
        statics.largestValue.toNat - rawValue.toNat := by
      rw [UInt64.toNat_add, gap]
      omega
    simp only [getCurrentTimeUs, if_pos behind, After]
    refine ⟨?_, ?_, ?_⟩
    · rw [fix]
      omega
    · apply UInt64.toNat.inj
      rw [UInt64.toNat_add, fix]
      omega
    · omega
  · have more := UInt64.not_lt.mp behind
    rw [UInt64.le_iff_toNat_le, fixed] at more
    simp only [getCurrentTimeUs, if_neg behind, After]
    refine ⟨fixed.symm, trivial, ?_⟩
    omega

/-- The returned values are the readings of a steady clock. -/
theorem returned_steady {rawValues : List UInt64} (invariant : statics.After last)
    (fits : statics.NoOverflow rawValues) :
    (statics.returned rawValues).map UInt64.toNat =
      SteadyClock.readings last statics.largestValue.toNat (rawValues.map UInt64.toNat) := by
  induction rawValues generalizing statics last with
  | nil => rfl
  | cons rawValue rest ih =>
    obtain ⟨first, later⟩ := fits
    obtain ⟨after, value, largest⟩ := getCurrentTimeUs_step invariant first
    show (statics.getCurrentTimeUs rawValue).2.toNat ::
      ((statics.getCurrentTimeUs rawValue).1.returned rest).map UInt64.toNat = _
    rw [ih after later, value, largest]
    rfl

/-- Before the first call the largest value is that of a call for zero. -/
theorem initial_after : initial.After 0 := rfl

section Returned

variable {rawValues : List UInt64} (fits : initial.NoOverflow rawValues)

include fits

/-- There is a value for each raw value. -/
theorem length_returned : (initial.returned rawValues).length = rawValues.length := by
  have steady := congrArg List.length (returned_steady initial_after fits)
  simpa using steady

/-- Each value is larger by the advance of the raw value. -/
theorem returned_succ {i : Nat} (inside : i + 1 < rawValues.length)
    (read : i + 1 < (initial.returned rawValues).length) :
    (initial.returned rawValues)[i + 1].toNat =
      (initial.returned rawValues)[i].toNat + (rawValues[i + 1].toNat - rawValues[i].toNat) := by
  have steady := returned_steady initial_after fits
  have value (j : Nat) (there : j < (initial.returned rawValues).length)
      (also : j < (SteadyClock.readings 0 0 (rawValues.map UInt64.toNat)).length) :
      (initial.returned rawValues)[j].toNat =
        (SteadyClock.readings 0 0 (rawValues.map UInt64.toNat))[j] := by
    rw [← List.getElem_map UInt64.toNat (h := by simpa using there)]
    exact List.getElem_of_eq steady _
  have readings := SteadyClock.readings_succ 0 0 (rawValues.map UInt64.toNat) (i := i)
    (by simpa using inside) (by simpa using inside)
  rw [List.getElem_map, List.getElem_map] at readings
  rw [value (i + 1) read (by simpa using inside), value i (by omega) (by simp; omega)]
  exact readings

/-- The values never decrease, and the difference of two of them in milliseconds does not
underflow. -/
theorem returned_pairwise :
    (initial.returned rawValues).Pairwise fun earlier later => earlier ≤ later ∧
      (later / 1000 - earlier / 1000).toNat = later.toNat / 1000 - earlier.toNat / 1000 := by
  have pairwise := SteadyClock.readings_pairwise 0 0 (rawValues.map UInt64.toNat)
  have steady := returned_steady initial_after fits
  rw [show initial.largestValue.toNat = 0 by rfl] at steady
  rw [← steady, List.pairwise_map] at pairwise
  refine pairwise.imp fun {earlier later} before => ?_
  have milliseconds : earlier / 1000 ≤ later / 1000 :=
    UInt64.le_iff_toNat_le.mpr (Nat.div_le_div_right before)
  exact ⟨UInt64.le_iff_toNat_le.mpr before, UInt64.toNat_sub_of_le _ _ milliseconds⟩

end Returned

end ClockStatics

/-! ### The process -/

section Process

variable {m m' : Machine v} {statics : ClockStatics} {rawValue : UInt64}

/-- The clock of a process has these static variables. -/
def Machine.HasStatics (machine : Machine v) (statics : ClockStatics) : Prop :=
  machine.valueFix = statics.valueFix.toNat ∧ machine.largestValue = statics.largestValue.toNat

/-- A new process is before the first call. -/
theorem Machine.start_hasStatics (self : Party) (answers : Nat → Answer v) (filterPort : UInt16) :
    (Machine.start self answers filterPort).HasStatics .initial := ⟨rfl, rfl⟩

/-- A call leads to the state after a reading and returns the largest value. -/
theorem getCurrentTimeUs_read :
    Returns Udp2raw.getCurrentTimeUs m m.read.largestValue m.read := by
  simp only [Udp2raw.getCurrentTimeUs, ask, Returns.bind_iff, Returns.get_iff, Returns.set_iff,
    Returns.pure_iff]
  refine ⟨_, _, ⟨_, _, ⟨rfl, rfl⟩, ⟨⟩, _, rfl, rfl, rfl⟩, _, _, ⟨rfl, rfl⟩, ?_⟩
  by_cases behind : (m.answers m.asked).rawTime + m.valueFix < m.largestValue
  · have caught : (m.answers m.asked).rawTime +
        (m.valueFix + (m.largestValue - ((m.answers m.asked).rawTime + m.valueFix))) =
        m.largestValue := by omega
    simp only [Machine.read, if_pos behind, Returns.bind_iff, Returns.set_iff, Returns.pure_iff]
    exact ⟨⟨⟩, _, rfl, caught, rfl⟩
  · simp only [Machine.read, if_neg behind, Returns.bind_iff, Returns.set_iff, Returns.pure_iff]
    exact ⟨⟨⟩, _, rfl, trivial, rfl⟩

/-- Without an overflow the clock of a process returns what the source returns. -/
theorem Machine.HasStatics.getCurrentTimeUs (has : m.HasStatics statics) {last : Nat}
    (invariant : statics.After last) (reading : (m.answers m.asked).rawTime = rawValue.toNat)
    (fits : statics.Fits rawValue) :
    Returns Udp2raw.getCurrentTimeUs m (statics.getCurrentTimeUs rawValue).2.toNat m.read ∧
      m.read.HasStatics (statics.getCurrentTimeUs rawValue).1 := by
  obtain ⟨fix, largest⟩ := has
  obtain ⟨after, value, advance⟩ := ClockStatics.getCurrentTimeUs_step invariant fits
  have kept : m.read.HasStatics (statics.getCurrentTimeUs rawValue).1 := by
    unfold ClockStatics.After at invariant after
    unfold Machine.HasStatics Machine.read
    rw [reading, fix, largest]
    dsimp only
    split
    · show _ = _ ∧ _ = _
      dsimp only
      constructor <;> omega
    · show _ = _ ∧ _ = _
      dsimp only
      constructor <;> omega
  refine ⟨?_, kept⟩
  rw [value, ← kept.2]
  exact getCurrentTimeUs_read

/-- Of two times that a process gets from its clock, whatever it does between the readings, the
later one is not smaller, and their unsigned difference is their difference. -/
theorem getCurrentTime_elapsed {m1 m2 : Machine v} {earlier later : Nat} {events : List (Event v)}
    (first : Returns getCurrentTime m earlier m1) (between : Logged events m1 m2)
    (second : Returns getCurrentTime m2 later m') (small : later < 2 ^ 64) :
    earlier ≤ later ∧ elapsed later earlier = later - earlier := by
  obtain ⟨-, rfl⟩ := getCurrentTime_ran first
  obtain ⟨ran, rfl⟩ := getCurrentTime_ran second
  have past : m1.now ≤ m'.now := Nat.le_trans between.now ran.now
  exact ⟨past, elapsed_eq past small⟩

end Process

namespace LruCollector

/-- A run of operations on a collector. Between two of them time passes. -/
inductive Run : Machine v → LruCollector κ → Prop
  /-- The collector is constructed. -/
  | made (machine : Machine v) : Run machine .empty
  /-- The process does something else. -/
  | passed {before after : Machine v} {lru : LruCollector κ} {events : List (Event v)} :
      Run before lru → Logged events before after → Run after lru
  /-- A key is used. -/
  | updated {before after : Machine v} {lru next : LruCollector κ} {key : κ} :
      Run before lru → Returns (lru.update key) before next after → Run after next
  /-- A key is added. -/
  | added {before after : Machine v} {lru next : LruCollector κ} {key : κ} :
      Run before lru → Returns (lru.newKey key) before next after → Run after next
  /-- A key is erased. -/
  | erased {machine : Machine v} {lru : LruCollector κ} (key : κ) :
      Run machine lru → Run machine (lru.erase key)

/-- No run gives a node a time later than the clock. -/
theorem Run.notAfter {m : Machine v} {lru : LruCollector κ} (run : Run m lru) :
    lru.NotAfter m.now := by
  induction run with
  | made machine => exact nofun
  | passed _ logged ih => exact ih.mono logged.now
  | updated _ returned ih => exact (update_ran returned).2.2 ih
  | added _ returned ih => exact (newKey_ran returned).2.2.2 ih
  | erased key _ ih => exact ih.erase key

variable {m : Machine v} {lru : LruCollector κ}

/-- A use only stops when the key is not there: no timestamp is ahead of the clock. -/
theorem Run.update_stops (run : Run m lru) (key : κ) :
    Stops (lru.update key) m fun fault =>
      key ∉ lru.keys ∧ fault = .assertion "mp.find(key) != mp.end()" := by
  by_cases present : key ∈ lru.keys
  · exact .of_succeeds (update_succeeds present run.notAfter)
  · have unknown : ¬key ∈ lru.mp := fun known => present (lru.mem_mp_iff.mp known)
    refine .bind (.lift fun fault failed => ⟨present, ?_⟩) fun _ _ passed => ?_
    · rw [assert, decide_eq_false unknown] at failed
      exact (Except.error.inj failed).symm
    · exact absurd (of_decide_eq_true (check_iff.mp passed).1) unknown

/-- An addition only stops when the key is there. -/
theorem Run.newKey_stops (run : Run m lru) (key : κ) :
    Stops (lru.newKey key) m fun fault =>
      key ∈ lru.keys ∧ fault = .assertion "mp.find(key) == mp.end()" := by
  by_cases present : key ∈ lru.keys
  · rw [newKey, dif_pos (lru.mem_mp_iff.mpr present)]
    exact .throw ⟨present, rfl⟩
  · exact .of_succeeds (newKey_succeeds present run.notAfter)

end LruCollector

/-- Whatever the raw values are, as long as nothing overflows: the returned values never decrease,
each is larger by the advance of the raw value, and differences of times do not underflow. So it is
for any two times that a process gets, and no timestamp of a collector is ahead of the clock. -/
theorem getCurrentTime_adjusted (v : IpVersion) (κ : Type) [DecidableEq κ] :
    (∀ rawValues : List UInt64, ClockStatics.initial.NoOverflow rawValues →
      let values := ClockStatics.initial.returned rawValues
      values.length = rawValues.length ∧ values.head? = rawValues.head? ∧
        (∀ i, ∀ inside : i + 1 < rawValues.length, ∀ read : i + 1 < values.length,
          values[i + 1].toNat = values[i].toNat + (rawValues[i + 1].toNat - rawValues[i].toNat)) ∧
        values.Pairwise fun earlier later => earlier ≤ later ∧
          (later / 1000 - earlier / 1000).toNat = later.toNat / 1000 - earlier.toNat / 1000) ∧
      (∀ (m m1 m2 m' : Machine v) (events : List (Event v)) (earlier later : Nat),
        Returns getCurrentTime m earlier m1 → Logged events m1 m2 →
          Returns getCurrentTime m2 later m' → later < 2 ^ 64 →
            earlier ≤ later ∧ elapsed later earlier = later - earlier) ∧
      ∀ (m : Machine v) (lru : LruCollector κ), LruCollector.Run m lru →
        (∀ key, Stops (lru.update key) m fun fault =>
          key ∉ lru.keys ∧ fault = .assertion "mp.find(key) != mp.end()") ∧
        (∀ key, Stops (lru.newKey key) m fun fault =>
          key ∈ lru.keys ∧ fault = .assertion "mp.find(key) == mp.end()") ∧
        ∀ node ∈ lru.q, ∀ time m', Returns getCurrentTime m time m' → time < 2 ^ 64 →
          node.ts ≤ time ∧ elapsed time node.ts = time - node.ts := by
  refine ⟨fun rawValues fits => ?_,
    fun m m1 m2 m' events earlier later first between second small =>
      getCurrentTime_elapsed first between second small, fun m lru run =>
      ⟨run.update_stops, run.newKey_stops, fun node inside time m' returned small => ?_⟩⟩
  · refine ⟨ClockStatics.length_returned fits, ?_,
      fun i inside read => ClockStatics.returned_succ fits inside read,
      ClockStatics.returned_pairwise fits⟩
    cases rawValues with
    | nil => rfl
    | cons rawValue rest =>
      have value := (ClockStatics.getCurrentTimeUs_step ClockStatics.initial_after fits.1).2
      have largest : (ClockStatics.initial.getCurrentTimeUs rawValue).2 = rawValue := by
        apply UInt64.toNat.inj
        rw [value.1, value.2]
        exact Nat.zero_add _
      exact congrArg some largest
  · obtain ⟨ran, rfl⟩ := getCurrentTime_ran returned
    have past := run.notAfter.mono ran.now node inside
    exact ⟨past, elapsed_eq past small⟩

end Udp2raw
