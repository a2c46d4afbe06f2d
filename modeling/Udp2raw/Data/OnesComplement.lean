import Mathlib.Init

/-!
# The ones' complement checksum

Sums of sixteen bit words with end-around carries, over byte strings of any length. A
string that stores the complement of its own sum has complement zero; that is how a
receiver checks it. Words are little-endian: the order of the bytes does not matter to the
check as long as both ends use one order.
-/
namespace Udp2raw.OnesComplement

/-- The sum of the words of a string; a last odd byte is the low byte of its word. -/
def wordSum : List UInt8 → Nat
  | [] => 0
  | [low] => low.toNat
  | low :: high :: rest => low.toNat + 256 * high.toNat + wordSum rest

/-- Two end-around carries. -/
def fold (sum : Nat) : Nat :=
  let once := sum / 65536 + sum % 65536
  (once + once / 65536) % 65536

/-- The complement of a folded sum. -/
def complement (sum : Nat) : Nat := 65535 - fold sum

/-- A word as it is stored. -/
def word (value : Nat) : List UInt8 := [UInt8.ofNat value, UInt8.ofNat (value / 256)]

/-- A stored word has two bytes. -/
@[simp] theorem word_length (value : Nat) : (word value).length = 2 := rfl

/-- Words of a string after a whole number of words add up. -/
theorem wordSum_append (first second : List UInt8) (even : first.length % 2 = 0) :
    wordSum (first ++ second) = wordSum first + wordSum second := by
  induction first using wordSum.induct with
  | case1 => simp [wordSum]
  | case2 low => simp at even
  | case3 low high rest ih =>
    have shorter : rest.length % 2 = 0 := by
      simp only [List.length_cons] at even
      omega
    simp only [List.cons_append, wordSum, ih shorter]
    omega

/-- A string has at most one full word for every two bytes. -/
theorem wordSum_le (data : List UInt8) : wordSum data ≤ 65535 * ((data.length + 1) / 2) := by
  induction data using wordSum.induct with
  | case1 => simp [wordSum]
  | case2 low =>
    have bound := low.toNat_lt
    simp only [wordSum, List.length_singleton]
    omega
  | case3 low high rest ih =>
    have bound := low.toNat_lt
    have above := high.toNat_lt
    simp only [wordSum, List.length_cons]
    omega

/-- A stored word is read back. -/
theorem wordSum_word {value : Nat} (fits : value < 65536) : wordSum (word value) = value := by
  simp only [word, wordSum, UInt8.toNat_ofNat']
  omega

/-- A complement is one word. -/
theorem complement_lt (sum : Nat) : complement sum < 65536 := by
  unfold complement
  omega

/-- Folding keeps a sum modulo the largest word, and only zero folds to zero. -/
theorem fold_spec (sum : Nat) (bound : sum < 65536 * 65536) :
    ∃ carries, sum = fold sum + 65535 * carries ∧ fold sum < 65536 ∧ (fold sum = 0 → sum = 0) := by
  have split : sum = 65535 * (sum / 65536) + (sum / 65536 + sum % 65536) := by omega
  have high : sum / 65536 < 65536 := by omega
  obtain ⟨once, first⟩ : ∃ once, once = sum / 65536 + sum % 65536 := ⟨_, rfl⟩
  have carried : fold sum = (once + once / 65536) % 65536 := by rw [first]; rfl
  by_cases carry : once < 65536
  · have none : fold sum = once := by omega
    exact ⟨sum / 65536, by omega, by omega, by omega⟩
  · have carries : once / 65536 = 1 := by omega
    rw [carries] at carried
    have one : fold sum + 65535 = once := by omega
    exact ⟨sum / 65536 + 1, by omega, by omega, by omega⟩

/-- The complement of a sum vanishes exactly at the positive multiples of the modulus. -/
theorem complement_eq_zero_iff {sum : Nat} (bound : sum < 65536 * 65536) :
    complement sum = 0 ↔ 0 < sum ∧ sum % 65535 = 0 := by
  obtain ⟨carries, split, small, zero⟩ := fold_spec sum bound
  unfold complement
  omega

/-- A sum together with its own complement checks. -/
theorem complement_add {sum : Nat} (bound : sum + 65536 < 65536 * 65536) :
    complement (sum + complement sum) = 0 := by
  have word := complement_lt sum
  obtain ⟨carries, split, small, zero⟩ := fold_spec sum (by omega)
  rw [complement_eq_zero_iff (by omega)]
  unfold complement
  omega

/-- A string that stores the complement of the sum it had with a zero there checks, whatever
sum precedes it. -/
theorem complement_stored (base : Nat) (before after : List UInt8)
    (even : before.length % 2 = 0)
    (bound : base + wordSum (before ++ word 0 ++ after) + 65536 < 65536 * 65536) :
    complement (base + wordSum (before ++
      word (complement (base + wordSum (before ++ word 0 ++ after))) ++ after)) = 0 := by
  have total : ∀ value, value < 65536 → base + wordSum (before ++ word value ++ after) =
      base + wordSum before + wordSum after + value := by
    intro value fits
    rw [wordSum_append _ _ (by simp [even]), wordSum_append _ _ even,
      wordSum_word fits]
    omega
  rw [total 0 (by decide)] at bound ⊢
  rw [total _ (complement_lt _)]
  exact complement_add bound

end Udp2raw.OnesComplement
