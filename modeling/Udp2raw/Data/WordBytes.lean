import Mathlib.Algebra.GroupWithZero.Nat

/-!
# The bytes of a word

A 32-bit word as four bytes, the lowest first: reading a byte, moving a byte to its place,
and how both go with the bitwise operations. A word can also be rotated.
-/
namespace Udp2raw.WordBytes

/-- A word has bytes. -/
theorem four_neZero : NeZero 4 := ⟨by decide⟩

/-- A block of words is not empty. -/
theorem sixteen_neZero : NeZero 16 := ⟨by decide⟩

attribute [local instance] four_neZero sixteen_neZero

/-- The byte of a word above a shift. -/
def byteAt (word shift : UInt32) : UInt8 := ((word >>> shift) &&& 0xFF).toUInt8

/-- Rotation to the left. -/
def rotl (count : Nat) (word : UInt32) : UInt32 :=
  (word <<< UInt32.ofNat count) ||| (word >>> UInt32.ofNat (32 - count))

/-- The distance of a byte from the low end of its word. -/
def shiftOf (row : Fin 4) : UInt32 := 8 * row.val.toUInt32

/-- The four bytes of a word. -/
def bytesOf (word : UInt32) : Fin 4 → UInt8 := fun row => byteAt word (shiftOf row)

/-- A byte moved to its place in a word. -/
def placed (row : Fin 4) (byte : UInt8) : UInt32 := byte.toUInt32 <<< shiftOf row

/-- A word from its four bytes, the lowest first. -/
def ofBytes (b0 b1 b2 b3 : UInt8) : UInt32 :=
  b0.toUInt32 ||| (b1.toUInt32 <<< 8) ||| (b2.toUInt32 <<< 16) ||| (b3.toUInt32 <<< 24)

/-- The shift of a byte is eight bits for each place. -/
theorem toNat_shiftOf (row : Fin 4) : ((shiftOf row).toBitVec % 32).toNat = 8 * row.val := by
  revert row
  decide

/-- The mask of a byte keeps its eight bits. -/
theorem mask_bit (bit : Fin 8) : (255#32).getLsbD bit.val = true := by
  revert bit
  decide

/-- The bits of a byte are bits of the word. -/
theorem bytesOf_bit (word : UInt32) (row : Fin 4) (bit : Nat) (inside : bit < 8) :
    (bytesOf word row).toBitVec.getLsbD bit = word.toBitVec.getLsbD (8 * row.val + bit) := by
  have mask : (255#32).getLsbD bit = true := mask_bit ⟨bit, inside⟩
  simp only [bytesOf, byteAt, UInt32.toBitVec_toUInt8, UInt32.toBitVec_and,
    UInt32.toBitVec_shiftRight, UInt32.toBitVec_ofNat, BitVec.getLsbD_setWidth,
    BitVec.getLsbD_and, BitVec.ushiftRight_eq', BitVec.getLsbD_ushiftRight, toNat_shiftOf,
    inside, mask, decide_true, Bool.true_and, Bool.and_true]

/-- The bits of a moved byte stand at its place only. -/
theorem placed_bit (row : Fin 4) (byte : UInt8) (bit : Nat) (inside : bit < 32) :
    (placed row byte).toBitVec.getLsbD bit =
      (decide (bit / 8 = row.val) && byte.toBitVec.getLsbD (bit % 8)) := by
  simp only [placed, UInt32.toBitVec_shiftLeft, UInt8.toBitVec_toUInt32, BitVec.shiftLeft_eq',
    BitVec.getLsbD_shiftLeft, BitVec.getLsbD_setWidth, inside, toNat_shiftOf]
  by_cases here : bit / 8 = row.val
  · have offset : bit - 8 * row.val = bit % 8 := by omega
    have after : ¬ bit < 8 * row.val := by omega
    have within : bit % 8 < 32 := by omega
    simp only [here, offset, after, within, decide_true, decide_false, Bool.not_false,
      Bool.true_and]
  · by_cases after : bit < 8 * row.val
    · simp [after, here]
    · have beyond : 8 ≤ bit - 8 * row.val := by omega
      have high := BitVec.getLsbD_of_ge byte.toBitVec (bit - 8 * row.val) beyond
      simp [here, high]

/-- The bytes of an exclusive or. -/
theorem bytesOf_xor (left right : UInt32) (row : Fin 4) :
    bytesOf (left ^^^ right) row = bytesOf left row ^^^ bytesOf right row := by
  apply UInt8.toBitVec_inj.mp
  apply BitVec.eq_of_getLsbD_eq
  intro bit inside
  simp only [UInt8.toBitVec_xor, UInt32.toBitVec_xor, BitVec.getLsbD_xor, bytesOf_bit _ _ _ inside]

/-- The bytes of an inclusive or. -/
theorem bytesOf_or (left right : UInt32) (row : Fin 4) :
    bytesOf (left ||| right) row = bytesOf left row ||| bytesOf right row := by
  apply UInt8.toBitVec_inj.mp
  apply BitVec.eq_of_getLsbD_eq
  intro bit inside
  simp only [UInt8.toBitVec_or, UInt32.toBitVec_or, BitVec.getLsbD_or, bytesOf_bit _ _ _ inside]

/-- A moved byte is the byte of its place, and the other bytes are zero. -/
theorem bytesOf_placed (row : Fin 4) (byte : UInt8) (other : Fin 4) :
    bytesOf (placed row byte) other = if other = row then byte else 0 := by
  apply UInt8.toBitVec_inj.mp
  apply BitVec.eq_of_getLsbD_eq
  intro bit inside
  have place : (8 * other.val + bit) / 8 = other.val := by omega
  have offset : (8 * other.val + bit) % 8 = bit := by omega
  rw [bytesOf_bit _ _ _ inside, placed_bit _ _ _ (by omega), place, offset]
  by_cases same : other = row
  · simp [same]
  · have apart : other.val ≠ row.val := fun equal => same (Fin.ext equal)
    simp [same, apart]

/-- A place is one of the four. -/
theorem row_cases (row : Fin 4) : row = 0 ∨ row = 1 ∨ row = 2 ∨ row = 3 := by
  revert row
  decide

/-- The byte of an assembled word at a place. -/
def pick (b0 b1 b2 b3 : UInt8) (row : Fin 4) : UInt8 :=
  if row = 0 then b0 else if row = 1 then b1 else if row = 2 then b2 else b3

/-- The bytes of a word assembled from its bytes. -/
theorem bytesOf_ofBytes (b0 b1 b2 b3 : UInt8) (row : Fin 4) :
    bytesOf (ofBytes b0 b1 b2 b3) row = pick b0 b1 b2 b3 row := by
  have moved : ofBytes b0 b1 b2 b3 =
      placed 0 b0 ||| placed 1 b1 ||| placed 2 b2 ||| placed 3 b3 := by
    have still : b0.toUInt32 <<< 0 = b0.toUInt32 := UInt32.shiftLeft_zero
    show _ = b0.toUInt32 <<< 0 ||| b1.toUInt32 <<< 8 ||| b2.toUInt32 <<< 16 ||| b3.toUInt32 <<< 24
    rw [still]
    rfl
  rw [moved]
  simp only [bytesOf_or, bytesOf_placed, pick]
  rcases row_cases row with rfl | rfl | rfl | rfl <;> simp

/-- Truncating a shifted word reads the same byte as masking it. -/
theorem toUInt8_shiftRight (word : UInt32) (row : Fin 4) :
    (word >>> shiftOf row).toUInt8 = bytesOf word row := by
  apply UInt8.toBitVec_inj.mp
  apply BitVec.eq_of_getLsbD_eq
  intro bit inside
  rw [bytesOf_bit _ _ _ inside]
  simp only [UInt32.toBitVec_toUInt8, UInt32.toBitVec_shiftRight, BitVec.getLsbD_setWidth,
    BitVec.ushiftRight_eq', BitVec.getLsbD_ushiftRight, toNat_shiftOf, inside, decide_true,
    Bool.true_and]

end Udp2raw.WordBytes
