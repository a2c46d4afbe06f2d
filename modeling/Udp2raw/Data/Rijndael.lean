import Udp2raw.Data.RoundCipher
import Udp2raw.Data.WordBytes
import Mathlib.Logic.Equiv.Basic
import Mathlib.Logic.Function.Iterate

/-!
# The Rijndael cipher on bytes

The state is a square of bytes, four columns of four rows. A round substitutes every byte,
rotates the rows, and multiplies every column by a fixed polynomial over the field of 256
elements. The layers of the cipher and the recurrence of the key schedule are defined over any
permutation of the bytes; the standard's is an affine map of the inverse in the field.
-/
namespace Udp2raw.Rijndael

open RoundCipher

attribute [local instance] WordBytes.four_neZero

/-- What holds of the 256 numbers holds of every byte. -/
theorem forall_byte {property : UInt8 → Prop} (all : ∀ number : Fin 256, property (.ofFin number))
    (byte : UInt8) : property byte := by
  exact all byte.toFin

/-! ### The field -/

/-- Multiplication by the polynomial `x`, reduced by the field's polynomial. -/
def xtime (byte : UInt8) : UInt8 :=
  (byte <<< 1) ^^^ (if byte.toBitVec.msb then 0x1B else 0)

/-- A byte if a coefficient is set. -/
def select (coefficient : Bool) (byte : UInt8) : UInt8 := if coefficient then byte else 0

/-- Multiplication by a polynomial of degree at most three. -/
def times (factor : BitVec 4) (byte : UInt8) : UInt8 :=
  select factor[0] byte ^^^ select factor[1] (xtime byte) ^^^
    select factor[2] (xtime (xtime byte)) ^^^ select factor[3] (xtime (xtime (xtime byte)))

/-- Multiplication by `x` is linear. -/
theorem xtime_xor (left right : UInt8) : xtime (left ^^^ right) = xtime left ^^^ xtime right := by
  have shifted : (left ^^^ right) <<< 1 = (left <<< 1) ^^^ (right <<< 1) := by
    exact UInt8.shiftLeft_xor
  have top : (left ^^^ right).toBitVec.msb = (left.toBitVec.msb ^^ right.toBitVec.msb) :=
    BitVec.msb_xor
  unfold xtime
  rw [shifted, top]
  cases left.toBitVec.msb <;> cases right.toBitVec.msb
  · simp
  · simp [UInt8.xor_assoc]
  · simp only [Bool.xor_false, if_true, Bool.false_eq_true, if_false, UInt8.xor_zero]
    ac_rfl
  · have carried (byte : UInt8) : (left <<< 1 ^^^ byte) ^^^ (right <<< 1 ^^^ byte) =
        (left <<< 1 ^^^ right <<< 1) ^^^ (byte ^^^ byte) := by ac_rfl
    simp only [Bool.xor_self, Bool.false_eq_true, if_false, if_true, carried, UInt8.xor_self]

/-- Selection is linear. -/
theorem select_xor (coefficient : Bool) (left right : UInt8) :
    select coefficient (left ^^^ right) = select coefficient left ^^^ select coefficient right := by
  cases coefficient
  · simp [select]
  · simp [select]

/-- Multiplication by a fixed polynomial is linear. -/
theorem times_xor (factor : BitVec 4) (left right : UInt8) :
    times factor (left ^^^ right) = times factor left ^^^ times factor right := by
  simp only [times, xtime_xor, select_xor]
  ac_rfl

/-- Multiplication in the field. -/
def product (left right : UInt8) : UInt8 :=
  (List.range 8).foldr
    (fun bit sum => select (left.toBitVec.getLsbD bit) (xtime^[bit] right) ^^^ sum) 0

/-- A byte rotated towards the high end. -/
def rotateByte (count byte : UInt8) : UInt8 := (byte <<< count) ||| (byte >>> (8 - count))

/-- The affine map of `SubBytes`: each bit is the sum of itself, four other bits and a constant. -/
def affine (byte : UInt8) : UInt8 :=
  byte ^^^ rotateByte 1 byte ^^^ rotateByte 2 byte ^^^ rotateByte 3 byte ^^^ rotateByte 4 byte ^^^
    0x63

/-- The other way round. -/
def unaffine (byte : UInt8) : UInt8 :=
  rotateByte 1 byte ^^^ rotateByte 3 byte ^^^ rotateByte 6 byte ^^^ 0x05

/-- The affine map can be undone. -/
theorem affine_unaffine (byte : UInt8) : affine (unaffine byte) = byte := by
  revert byte
  apply forall_byte
  decide +kernel

/-- `SubBytes` makes this of a byte: the affine image of its inverse in the field, where zero stands
for the inverse of zero. -/
def Substitutes (byte image : UInt8) : Prop :=
  ∃ inverse, (if byte = 0 then inverse = 0 else product byte inverse = 1) ∧ image = affine inverse

/-! ### Columns -/

/-- The four bytes of a column. -/
abbrev Column := Fin 4 → UInt8

/-- The bytewise sum of two columns. -/
def Column.add (left right : Column) : Column := fun row => left row ^^^ right row

/-- Multiplication of a column by the polynomial with the given coefficients, constant one
first, in the order the rows meet them. -/
def circulant (c0 c1 c2 c3 : BitVec 4) (column : Column) : Column := fun row =>
  times c0 (column row) ^^^ times c1 (column (row + 1)) ^^^
    times c2 (column (row + 2)) ^^^ times c3 (column (row + 3))

/-- `MixColumns` on one column. -/
def mixColumn : Column → Column := circulant 0x2 0x3 0x1 0x1

/-- `InvMixColumns` on one column. -/
def unmixColumn : Column → Column := circulant 0xE 0xB 0xD 0x9

/-- Multiplying a column is linear. -/
theorem circulant_add (c0 c1 c2 c3 : BitVec 4) (left right : Column) :
    circulant c0 c1 c2 c3 (left.add right) =
      (circulant c0 c1 c2 c3 left).add (circulant c0 c1 c2 c3 right) := by
  funext row
  simp only [circulant, Column.add, times_xor]
  ac_rfl

/-- The four coefficients that a byte collects in the product of two columns' polynomials. -/
def collected (a0 a1 a2 a3 b0 b1 b2 b3 : BitVec 4) (byte : UInt8) : UInt8 :=
  times a0 (times b0 byte) ^^^ times a1 (times b1 byte) ^^^
    times a2 (times b2 byte) ^^^ times a3 (times b3 byte)

/-- Multiplying twice multiplies by the product of the polynomials. -/
theorem circulant_circulant (a0 a1 a2 a3 b0 b1 b2 b3 : BitVec 4) (column : Column) (row : Fin 4) :
    circulant a0 a1 a2 a3 (circulant b0 b1 b2 b3 column) row =
      collected a0 a1 a2 a3 b0 b3 b2 b1 (column row) ^^^
      collected a0 a1 a2 a3 b1 b0 b3 b2 (column (row + 1)) ^^^
      collected a0 a1 a2 a3 b2 b1 b0 b3 (column (row + 2)) ^^^
      collected a0 a1 a2 a3 b3 b2 b1 b0 (column (row + 3)) := by
  have turn : ∀ row : Fin 4, row + 1 + 1 = row + 2 ∧ row + 1 + 2 = row + 3 ∧ row + 1 + 3 = row ∧
      row + 2 + 1 = row + 3 ∧ row + 2 + 2 = row ∧ row + 2 + 3 = row + 1 ∧
      row + 3 + 1 = row ∧ row + 3 + 2 = row + 1 ∧ row + 3 + 3 = row + 2 := by decide
  have turned := turn row
  simp only [circulant, collected, times_xor, turned]
  ac_rfl

/-- The product of the unmixing polynomial with the mixing one is one. -/
theorem collected_unmix (byte : UInt8) :
    collected 0xE 0xB 0xD 0x9 0x2 0x1 0x1 0x3 byte = byte ∧
    collected 0xE 0xB 0xD 0x9 0x3 0x2 0x1 0x1 byte = 0 ∧
    collected 0xE 0xB 0xD 0x9 0x1 0x3 0x2 0x1 byte = 0 ∧
    collected 0xE 0xB 0xD 0x9 0x1 0x1 0x3 0x2 byte = 0 := by
  revert byte
  apply forall_byte
  decide +kernel

/-- The product in the other order is one as well. -/
theorem collected_mix (byte : UInt8) :
    collected 0x2 0x3 0x1 0x1 0xE 0x9 0xD 0xB byte = byte ∧
    collected 0x2 0x3 0x1 0x1 0xB 0xE 0x9 0xD byte = 0 ∧
    collected 0x2 0x3 0x1 0x1 0xD 0xB 0xE 0x9 byte = 0 ∧
    collected 0x2 0x3 0x1 0x1 0x9 0xD 0xB 0xE byte = 0 := by
  revert byte
  apply forall_byte
  decide +kernel

/-- Unmixing undoes mixing. -/
theorem unmixColumn_mixColumn (column : Column) : unmixColumn (mixColumn column) = column := by
  funext row
  have here := (collected_unmix (column row)).1
  have one := (collected_unmix (column (row + 1))).2.1
  have two := (collected_unmix (column (row + 2))).2.2.1
  have three := (collected_unmix (column (row + 3))).2.2.2
  rw [unmixColumn, mixColumn, circulant_circulant, here, one, two, three]
  simp only [UInt8.xor_zero]

/-- Mixing undoes unmixing. -/
theorem mixColumn_unmixColumn (column : Column) : mixColumn (unmixColumn column) = column := by
  funext row
  have here := (collected_mix (column row)).1
  have one := (collected_mix (column (row + 1))).2.1
  have two := (collected_mix (column (row + 2))).2.2.1
  have three := (collected_mix (column (row + 3))).2.2.2
  rw [unmixColumn, mixColumn, circulant_circulant, here, one, two, three]
  simp only [UInt8.xor_zero]

/-! ### The rounds -/

/-- The state of the cipher: its columns. -/
abbrev Square := Fin 4 → Column

/-- The columnwise sum of two states, `AddRoundKey`. -/
def Square.add (left right : Square) : Square := fun place => (left place).add (right place)

/-- `SubBytes` and `ShiftRows`: row by row, the bytes move to the left by the row's number. -/
def substitution (sbox : Equiv.Perm UInt8) : Equiv.Perm Square where
  toFun square := fun place row => sbox (square (place + row) row)
  invFun square := fun place row => sbox.symm (square (place - row) row)
  left_inv square := by
    funext place row
    have back : ∀ place row : Fin 4, place - row + row = place := by decide
    simp only [Equiv.symm_apply_apply, back]
  right_inv square := by
    funext place row
    have back : ∀ place row : Fin 4, place + row - row = place := by decide
    simp only [Equiv.apply_symm_apply, back]

/-- `MixColumns`. -/
def mixing : Equiv.Perm Square where
  toFun square := fun place => mixColumn (square place)
  invFun square := fun place => unmixColumn (square place)
  left_inv square := by
    funext place
    exact unmixColumn_mixColumn (square place)
  right_inv square := by
    funext place
    exact mixColumn_unmixColumn (square place)

/-- The layers of the cipher. -/
def layers (sbox : Equiv.Perm UInt8) : Layers Square where
  add := Square.add
  substitute := substitution sbox
  mix := mixing
  add_add square key := by
    funext place row
    simp only [Square.add, Column.add, UInt8.xor_assoc, UInt8.xor_self, UInt8.xor_zero]
  mix_add square key := by
    funext place
    exact circulant_add 0x2 0x3 0x1 0x1 (square place) (key place)

/-! ### The key schedule -/

/-- The four words of a round key, taken from a sequence of words. -/
def roundKey (words : Nat → Column) (round : Nat) : Square := fun place =>
  words (4 * round + place.val)

/-- `SubWord`. -/
def subWord (sbox : UInt8 → UInt8) (word : Column) : Column := fun row => sbox (word row)

/-- `RotWord`. -/
def rotWord (word : Column) : Column := fun row => word (row + 1)

/-- `Rcon`: the powers of `x` in the first row, the first power for the first round. -/
def rcon (round : Nat) : Column := fun row => if row = 0 then xtime^[round - 1] 1 else 0

/-- What the schedule adds to the word one key length back: the word before, substituted at
the start of a key length and, for the longest keys, in its middle. -/
def scheduled (sbox : UInt8 → UInt8) (keyLength place : Nat) (before : Column) : Column :=
  if place % keyLength = 0 then (subWord sbox (rotWord before)).add (rcon (place / keyLength))
  else if 6 < keyLength ∧ place % keyLength = 4 then subWord sbox before
  else before

/-- A sequence of words that expands a key, up to a number of words. -/
structure Expands (sbox : UInt8 → UInt8) (keyLength : Nat) (key : Nat → Column) (count : Nat)
    (words : Nat → Column) : Prop where
  /-- It starts with the key. -/
  key : ∀ place, place < keyLength → words place = key place
  /-- Every later word is the sum of the word one key length back and the scheduled one. -/
  next : ∀ place, keyLength ≤ place → place < count → words place =
    (words (place - keyLength)).add (scheduled sbox keyLength place (words (place - 1)))

/-- The recurrence determines the words. -/
theorem Expands.unique {sbox : UInt8 → UInt8} {keyLength count : Nat}
    {key left right : Nat → Column}
    (expandsLeft : Expands sbox keyLength key count left)
    (expandsRight : Expands sbox keyLength key count right) (place : Nat) (within : place < count)
    (positive : 0 < keyLength) : left place = right place := by
  induction place using Nat.strongRecOn with
  | _ place ih =>
    by_cases start : place < keyLength
    · rw [expandsLeft.key place start, expandsRight.key place start]
    · have back := ih (place - keyLength) (by omega) (by omega)
      have before := ih (place - 1) (by omega) (by omega)
      rw [expandsLeft.next place (by omega) within, expandsRight.next place (by omega) within,
        back, before]

end Udp2raw.Rijndael
