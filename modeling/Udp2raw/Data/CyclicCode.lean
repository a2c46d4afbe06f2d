import Mathlib.Init

/-!
# Cyclic redundancy checks

The register of a reflected cyclic code: a message's bits are added at its low end, one for
each shift, and a one that falls out adds the polynomial. Up to a register's width the bits may
as well be added all at once. The shift is injective, so two messages that differ in a burst no
longer than the register leave different registers, whatever surrounds the burst.
-/
namespace Udp2raw.CyclicCode

variable {width : Nat}

/-- One shift towards the low end. -/
def shift (poly register : BitVec width) : BitVec width :=
  (register >>> 1) ^^^ (if register.getLsbD 0 then poly else 0#(width))

/-- A number of shifts. -/
def shifts (poly : BitVec width) : Nat → BitVec width → BitVec width
  | 0, register => register
  | count + 1, register => shifts poly count (shift poly register)

/-- A bit at the low end. -/
def lowBit (bit : Bool) : BitVec width := if bit then 1#(width) else 0#(width)

/-- The register after the bits of a message. -/
def feed (poly register : BitVec width) (bits : List Bool) : BitVec width :=
  bits.foldl (fun register bit => shift poly (register ^^^ lowBit bit)) register

/-- The bits as a word, the first at the low end. -/
def word : List Bool → BitVec width
  | [] => 0#(width)
  | bit :: bits => (word bits <<< 1) ^^^ lowBit bit

/-- Two equal summands cancel. -/
theorem xor_right_cancel {first second common : BitVec width}
    (same : first ^^^ common = second ^^^ common) : first = second := by
  have cancelled := congrArg (· ^^^ common) same
  simpa [BitVec.xor_assoc] using cancelled

/-- A shift adds. -/
theorem shift_xor (poly first second : BitVec width) :
    shift poly (first ^^^ second) = shift poly first ^^^ shift poly second := by
  simp only [shift, BitVec.getLsbD_xor, BitVec.ushiftRight_xor_distrib]
  cases first.getLsbD 0 with
  | false =>
    cases second.getLsbD 0 with
    | false => simp
    | true => simp [BitVec.xor_assoc]
  | true =>
    cases second.getLsbD 0 with
    | false =>
      have turned : (second >>> 1) ^^^ poly = poly ^^^ (second >>> 1) := BitVec.xor_comm _ _
      simp [BitVec.xor_assoc, turned]
    | true =>
      have turned : poly ^^^ ((second >>> 1) ^^^ poly) = second >>> 1 := by
        rw [BitVec.xor_comm (second >>> 1) poly, ← BitVec.xor_assoc, BitVec.xor_self,
          BitVec.zero_xor]
      simp [BitVec.xor_assoc, turned]

/-- Shifts add. -/
theorem shifts_xor (poly : BitVec width) (count : Nat) (first second : BitVec width) :
    shifts poly count (first ^^^ second) =
      shifts poly count first ^^^ shifts poly count second := by
  induction count generalizing first second with
  | zero => rfl
  | succ count ih => rw [shifts, shifts, shifts, shift_xor, ih]

/-- The top bit of a polynomial of full degree keeps what falls out. -/
theorem shift_injective (poly : BitVec width) (full : poly.msb = true)
    {first second : BitVec width} (same : shift poly first = shift poly second) :
    first = second := by
  have positive : 0 < width := by
    by_cases empty : width = 0
    · subst empty
      rw [BitVec.eq_nil poly] at full
      exact absurd full (by decide)
    · omega
  have top (register : BitVec width) :
      (shift poly register).getLsbD (width - 1) = register.getLsbD 0 := by
    have high : (register >>> 1).getLsbD (width - 1) = false := by
      rw [BitVec.getLsbD_ushiftRight]
      exact BitVec.getLsbD_of_ge _ _ (by omega)
    have degree : poly.getLsbD (width - 1) = true := by
      rw [← BitVec.msb_eq_getLsbD_last]
      exact full
    rw [shift, BitVec.getLsbD_xor, high, Bool.false_xor]
    cases register.getLsbD 0 with
    | false => simp
    | true => simpa using degree
  have low : first.getLsbD 0 = second.getLsbD 0 := by
    rw [← top first, ← top second, same]
  have rest : first >>> 1 = second >>> 1 := by
    simp only [shift, low] at same
    exact xor_right_cancel same
  apply BitVec.eq_of_getLsbD_eq
  intro place inside
  cases place with
  | zero => exact low
  | succ place =>
    have bit := congrArg (fun register => register.getLsbD place) rest
    simp only [BitVec.getLsbD_ushiftRight] at bit
    have order : 1 + place = place + 1 := Nat.add_comm 1 place
    rw [order] at bit
    exact bit

/-- Shifts are injective. -/
theorem shifts_injective (poly : BitVec width) (full : poly.msb = true) (count : Nat)
    {first second : BitVec width} (same : shifts poly count first = shifts poly count second) :
    first = second := by
  induction count generalizing first second with
  | zero => exact same
  | succ count ih => exact shift_injective poly full (ih same)

/-- Shifts that drop zeros only move the register. -/
theorem shifts_zeros (poly : BitVec width) (count : Nat) (register : BitVec width)
    (zeros : ∀ place < count, register.getLsbD place = false) :
    shifts poly count register = register >>> count := by
  induction count generalizing register with
  | zero => exact (BitVec.ushiftRight_zero register).symm
  | succ count ih =>
    have low := zeros 0 (Nat.succ_pos count)
    have first : shift poly register = register >>> 1 := by simp [shift, low]
    have order : count + 1 = 1 + count := Nat.add_comm count 1
    rw [shifts, first, ih, order, BitVec.shiftRight_add]
    intro place inside
    have bit := zeros (1 + place) (by omega)
    rw [BitVec.getLsbD_ushiftRight]
    exact bit

/-- The bits of a word. -/
theorem word_bit (bits : List Bool) (place : Nat) (inside : place < width) :
    (word bits : BitVec width).getLsbD place = bits[place]?.getD false := by
  induction bits generalizing place with
  | nil => simp [word]
  | cons bit bits ih =>
    rw [word, BitVec.getLsbD_xor, BitVec.getLsbD_shiftLeft]
    cases place with
    | zero => cases bit <;> simp [lowBit, inside]
    | succ place =>
      have inner := ih place (by omega)
      have apart : (lowBit bit : BitVec width).getLsbD (place + 1) = false := by
        cases bit <;> simp [lowBit]
      rw [apart, List.getElem?_cons_succ, Nat.add_sub_cancel, inner]
      simp [inside]

/-- A word has no bits behind its last. -/
theorem word_high (bits : List Bool) (place : Nat) (behind : bits.length ≤ place) :
    (word bits : BitVec width).getLsbD place = false := by
  by_cases inside : place < width
  · rw [word_bit bits place inside, List.getElem?_eq_none behind, Option.getD_none]
  · exact BitVec.getLsbD_of_ge _ _ (by omega)

/-- A shift of a word drops its first bit, which must be zero. -/
theorem shift_word (poly : BitVec width) (bits : List Bool) (short : bits.length < width) :
    shift poly (word bits <<< 1) = word bits := by
  have low : (word bits <<< 1 : BitVec width).getLsbD 0 = false := by simp
  rw [shift, low]
  apply BitVec.eq_of_getLsbD_eq
  intro place inside
  by_cases last : place + 1 < width
  · have order : 1 + place = place + 1 := Nat.add_comm 1 place
    simp [order, last, BitVec.getLsbD_eq_getElem inside]
  · have high := @word_high width bits place (by omega)
    have order : 1 + place = place + 1 := Nat.add_comm 1 place
    simp [BitVec.getLsbD_shiftLeft, order, last, high]

/-- Up to the register's width the bits may be added all at once. -/
theorem feed_word (poly register : BitVec width) (bits : List Bool)
    (fits : bits.length ≤ width) :
    feed poly register bits = shifts poly bits.length (register ^^^ word bits) := by
  induction bits generalizing register with
  | nil => simp [feed, shifts, word]
  | cons bit bits ih =>
    have shorter : bits.length < width := fits
    have turned : register ^^^ ((word bits <<< 1) ^^^ lowBit bit) =
        (register ^^^ lowBit bit) ^^^ (word bits <<< 1) := by
      rw [BitVec.xor_comm (word bits <<< 1), ← BitVec.xor_assoc]
    have rest := ih (shift poly (register ^^^ lowBit bit)) (Nat.le_of_lt shorter)
    calc feed poly register (bit :: bits)
        = feed poly (shift poly (register ^^^ lowBit bit)) bits := rfl
      _ = shifts poly bits.length (shift poly (register ^^^ lowBit bit) ^^^ word bits) := rest
      _ = shifts poly bits.length
            (shift poly ((register ^^^ lowBit bit) ^^^ (word bits <<< 1))) := by
          rw [shift_xor poly (register ^^^ lowBit bit), shift_word poly bits shorter]
      _ = shifts poly (bit :: bits).length (register ^^^ word (bit :: bits)) := by
          rw [word, turned, List.length_cons, shifts]

/-- A word tells its bits. -/
theorem word_injective {first second : List Bool} (length : first.length = second.length)
    (fits : first.length ≤ width) (same : (word first : BitVec width) = word second) :
    first = second := by
  apply List.ext_getElem length
  intro place left right
  have bit := congrArg (fun register => register.getLsbD place) same
  simp only [word_bit _ place (Nat.lt_of_lt_of_le left fits)] at bit
  rw [List.getElem?_eq_getElem left, List.getElem?_eq_getElem right] at bit
  exact bit

/-- Different registers stay different under the same bits. -/
theorem feed_injective (poly : BitVec width) (full : poly.msb = true) (bits : List Bool)
    {first second : BitVec width} (same : feed poly first bits = feed poly second bits) :
    first = second := by
  induction bits generalizing first second with
  | nil => exact same
  | cons bit bits ih => exact xor_right_cancel (shift_injective poly full (ih same))

/-- A burst no longer than the register changes it, whatever is in front and behind. -/
theorem burst_detected (poly register : BitVec width) (full : poly.msb = true)
    (before burst other after : List Bool) (length : burst.length = other.length)
    (fits : burst.length ≤ width) (differ : burst ≠ other) :
    feed poly register (before ++ burst ++ after) ≠
      feed poly register (before ++ other ++ after) := by
  intro same
  simp only [feed, List.foldl_append] at same
  have inner := feed_injective poly full after same
  have words : shifts poly burst.length (feed poly register before ^^^ word burst) =
      shifts poly burst.length (feed poly register before ^^^ word other) := by
    have left := feed_word poly (feed poly register before) burst fits
    have right := feed_word poly (feed poly register before) other (by omega)
    rw [← left, length, ← right]
    exact inner
  have equal := shifts_injective poly full _ words
  rw [BitVec.xor_comm, BitVec.xor_comm _ (word other)] at equal
  exact differ (word_injective length fits (xor_right_cancel equal))

end Udp2raw.CyclicCode
