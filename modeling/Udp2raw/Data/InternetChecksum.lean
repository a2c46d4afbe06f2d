import Udp2raw.Data.BigEndian
import Udp2raw.Data.OnesComplement

/-!
# The Internet checksum

The checksum of RFC 1071 as its text defines it: words in network order are added with an
end-around carry after each addition, and the complement of the sum is sent in network order. Sums
of little-endian words that are folded once, at the end, give the same two bytes.
-/
namespace Udp2raw.InternetChecksum

open OnesComplement

/-- The ones' complement sum of two words. -/
def add (left right : Nat) : Nat :=
  if left + right < 65536 then left + right else left + right - 65535

/-- The ones' complement sum of the words of a string in network order, padded to a whole number
of words. -/
def sum : List UInt8 → Nat
  | [] => 0
  | [high] => 256 * high.toNat
  | high :: low :: rest => add (256 * high.toNat + low.toNat) (sum rest)

/-- The checksum of a string. -/
def checksum (data : List UInt8) : Nat := 65535 - sum data

/-- A sum is a representative of the plain sum that is zero only for zeros: it has the remainder of
the plain sum, and vanishes together with it. -/
structure Represents (word total : Nat) : Prop where
  /-- It is a word. -/
  small : word < 65536
  /-- It has the same remainder. -/
  remainder : word % 65535 = total % 65535
  /-- It vanishes exactly with the plain sum. -/
  zero : word = 0 ↔ total = 0

/-- The word with its two bytes exchanged. -/
def swap (word : Nat) : Nat := word % 256 * 256 + word / 256

/-- A word has one representative only. -/
theorem Represents.unique {one two total : Nat} (first : Represents one total)
    (second : Represents two total) : one = two := by
  obtain ⟨small, remainder, zero⟩ := first
  obtain ⟨small', remainder', zero'⟩ := second
  by_cases none : total = 0
  · rw [zero.mpr none, zero'.mpr none]
  · have left : one ≠ 0 := fun same => none (zero.mp same)
    have right : two ≠ 0 := fun same => none (zero'.mp same)
    omega

/-- An addition with an end-around carry represents the plain addition. -/
theorem Represents.add {left right more : Nat} (word : left < 65536)
    (rest : Represents right more) : Represents (add left right) (left + more) := by
  obtain ⟨small, remainder, zero⟩ := rest
  unfold InternetChecksum.add
  split
  · exact ⟨by omega, by omega, by omega⟩
  · exact ⟨by omega, by omega, by omega⟩

/-- Folding once at the end represents the plain sum. -/
theorem represents_fold {total : Nat} (bound : total < 65536 * 65536) :
    Represents (fold total) total := by
  obtain ⟨carries, split, small, zero⟩ := fold_spec total bound
  exact ⟨small, by omega, by omega⟩

/-- Exchanging the bytes of a word multiplies it by 256. -/
theorem Represents.swap {word total : Nat} (represents : Represents word total) :
    Represents (swap word) (256 * total) := by
  obtain ⟨small, remainder, zero⟩ := represents
  have shifted : InternetChecksum.swap word + 65535 * (word / 256) = 256 * word := by
    unfold InternetChecksum.swap
    omega
  refine ⟨?_, ?_, ?_⟩
  · unfold InternetChecksum.swap
    omega
  · calc
      InternetChecksum.swap word % 65535 = 256 * word % 65535 := by omega
      _ = 256 * (word % 65535) % 65535 := by
        rw [Nat.mul_mod, Nat.mul_mod 256 (word % 65535), Nat.mod_mod]
      _ = 256 * (total % 65535) % 65535 := by rw [remainder]
      _ = 256 * total % 65535 := by rw [Nat.mul_mod, Nat.mul_mod 256 total, Nat.mod_mod]
  · unfold InternetChecksum.swap
    omega

/-- The sum represents the little-endian sum with its bytes exchanged. -/
theorem represents_sum (data : List UInt8) : Represents (sum data) (256 * wordSum data) := by
  induction data using sum.induct with
  | case1 => exact ⟨by decide, by decide, by decide⟩
  | case2 high =>
    have bound := high.toNat_lt
    simp only [sum, wordSum]
    exact ⟨by omega, rfl, Iff.rfl⟩
  | case3 high low rest ih =>
    have bound := high.toNat_lt
    have below := low.toNat_lt
    have word := ih.add (show 256 * high.toNat + low.toNat < 65536 by omega)
    obtain ⟨small, remainder, zero⟩ := word
    simp only [sum, wordSum]
    exact ⟨small, by omega, by omega⟩

/-- A word with its bytes exchanged in network order is the word in the other order. -/
theorem encode_swap {value : Nat} (small : value < 65536) :
    BigEndian.encode 2 (swap value) = word value := by
  have high : value / 256 < 256 := by omega
  have first : swap value / 256 = value % 256 := by
    unfold swap
    omega
  have second : UInt8.ofNat (swap value) = UInt8.ofNat (value / 256) := by
    apply UInt8.toNat.inj
    simp only [UInt8.toNat_ofNat', swap]
    omega
  have third : UInt8.ofNat (value % 256) = UInt8.ofNat value := by
    apply UInt8.toNat.inj
    simp only [UInt8.toNat_ofNat']
    omega
  simp only [BigEndian.encode, Nat.pow_one, Nat.pow_zero, Nat.div_one, first, second, third, word]

/-- The stored checksum is the same two bytes whichever order the words are added in. -/
theorem word_complement {data : List UInt8} (bound : wordSum data < 65536 * 65536) :
    word (complement (wordSum data)) = BigEndian.encode 2 (checksum data) := by
  have folded := represents_fold bound
  have same : sum data = swap (fold (wordSum data)) :=
    (represents_sum data).unique folded.swap
  have small := folded.small
  have exchanged : checksum data = swap (complement (wordSum data)) := by
    rw [checksum, same, complement]
    unfold swap
    omega
  rw [exchanged, encode_swap (complement_lt _)]

end Udp2raw.InternetChecksum
