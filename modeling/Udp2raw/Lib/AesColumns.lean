import Udp2raw.Lib.Aes
import Udp2raw.Data.Rijndael

/-!
# What the AES tables compute

An entry of a forward table is a substituted byte with its products in the mixed column, an
entry of a reverse table the same with the inverse substitution and mixing. So four lookups
substitute a column's bytes and mix them, and the tables' words are columns.
-/
namespace Udp2raw.Aes

open WordBytes Rijndael

attribute [local instance] four_neZero sixteen_neZero

/-! ### Tables -/

/-- The two substitution tables are inverse to each other. -/
theorem rsb_fsb (byte : UInt8) : rsb.at (fsb.at byte) = byte ∧ fsb.at (rsb.at byte) = byte := by
  revert byte
  apply forall_byte
  decide +kernel

/-- The forward table is the substitution of the standard. -/
theorem fsb_substitutes (byte : UInt8) : Substitutes byte (fsb.at byte) := by
  refine ⟨unaffine (fsb.at byte), ?_, (affine_unaffine _).symm⟩
  revert byte
  apply forall_byte
  decide +kernel

/-- The byte substitution. -/
def sbox : Equiv.Perm UInt8 where
  toFun := fsb.at
  invFun := rsb.at
  left_inv byte := (rsb_fsb byte).1
  right_inv byte := (rsb_fsb byte).2

/-- A column with one byte. -/
def single (place : Fin 4) (byte : UInt8) : Column := fun row => if row = place then byte else 0

/-- The forward tables: every entry is the substituted byte's column of products. -/
theorem ft_entry (byte : UInt8) (place : Fin 4) : (ft (rotated place)).at byte =
    rotated place (times 3 (fsb.at byte)) (fsb.at byte) (fsb.at byte) (times 2 (fsb.at byte)) := by
  revert place
  revert byte
  apply forall_byte
  decide +kernel

/-- The reverse tables likewise. -/
theorem rt_entry (byte : UInt8) (place : Fin 4) : (rt (rotated place)).at byte =
    rotated place (times 11 (rsb.at byte)) (times 13 (rsb.at byte)) (times 9 (rsb.at byte))
      (times 14 (rsb.at byte)) := by
  revert place
  revert byte
  apply forall_byte
  decide +kernel

/-- The products with one and with zero. -/
theorem times_one (byte : UInt8) : times 1#4 byte = byte ∧ ∀ factor, times factor 0 = 0 := by
  have zero : ∀ factor, times factor 0 = 0 := by decide
  constructor
  · simp [times, select]
  · exact zero

/-- An entry of a forward table is the mixed column of the substituted byte. -/
theorem ft_single (place : Fin 4) (byte : UInt8) :
    bytesOf ((ft (rotated place)).at byte) = mixColumn (single place (fsb.at byte)) := by
  have one (byte : UInt8) := (times_one byte).1
  have zero := (times_one 0).2
  rw [ft_entry]
  funext row
  rcases row_cases place with rfl | rfl | rfl | rfl <;>
    rcases row_cases row with rfl | rfl | rfl | rfl <;>
    simp [rotated, wordOf, bytesOf_ofBytes, pick, mixColumn, circulant, single, one, zero]

/-- An entry of a reverse table is the unmixed column of the substituted byte. -/
theorem rt_single (place : Fin 4) (byte : UInt8) :
    bytesOf ((rt (rotated place)).at byte) = unmixColumn (single place (rsb.at byte)) := by
  have zero := (times_one 0).2
  rw [rt_entry]
  funext row
  rcases row_cases place with rfl | rfl | rfl | rfl <;>
    rcases row_cases row with rfl | rfl | rfl | rfl <;>
    simp [rotated, wordOf, bytesOf_ofBytes, pick, unmixColumn, circulant, single, zero]

/-- The sum of four columns. -/
def sum4 (c0 c1 c2 c3 : Column) : Column := ((c0.add c1).add c2).add c3

/-- The bytes of an exclusive or are the sum of the columns. -/
theorem bytesOf_add (left right : UInt32) :
    bytesOf (left ^^^ right) = Column.add (bytesOf left) (bytesOf right) := by
  funext row
  exact bytesOf_xor left right row

/-- The bytes of an exclusive or of four words. -/
theorem bytesOf_sum4 (w0 w1 w2 w3 : UInt32) :
    bytesOf (w0 ^^^ w1 ^^^ w2 ^^^ w3) =
      sum4 (bytesOf w0) (bytesOf w1) (bytesOf w2) (bytesOf w3) := by
  rw [bytesOf_add, bytesOf_add, bytesOf_add, sum4]

/-- A column is the sum of its bytes in their places. -/
theorem sum4_single (b0 b1 b2 b3 : UInt8) :
    sum4 (single 0 b0) (single 1 b1) (single 2 b2) (single 3 b3) = pick b0 b1 b2 b3 := by
  funext row
  rcases row_cases row with rfl | rfl | rfl | rfl <;> simp [sum4, Column.add, single, pick]

/-- A product of columns is linear in four summands. -/
theorem circulant_sum4 (c0 c1 c2 c3 : BitVec 4) (d0 d1 d2 d3 : Column) :
    circulant c0 c1 c2 c3 (sum4 d0 d1 d2 d3) =
      sum4 (circulant c0 c1 c2 c3 d0) (circulant c0 c1 c2 c3 d1) (circulant c0 c1 c2 c3 d2)
        (circulant c0 c1 c2 c3 d3) := by
  simp only [sum4, circulant_add]

/-- One column of a forward round: four lookups substitute and mix. -/
theorem bytesOf_fcolumn (y0 y1 y2 y3 : UInt32) :
    bytesOf (fcolumn y0 y1 y2 y3) = mixColumn (pick (fsb.at (bytesOf y0 0))
      (fsb.at (bytesOf y1 1)) (fsb.at (bytesOf y2 2)) (fsb.at (bytesOf y3 3))) := by
  have entry (place : Fin 4) (byte : UInt8) := ft_single place byte
  calc bytesOf (fcolumn y0 y1 y2 y3)
      = sum4 (bytesOf (ft0.at (bytesOf y0 0))) (bytesOf (ft1.at (bytesOf y1 1)))
          (bytesOf (ft2.at (bytesOf y2 2))) (bytesOf (ft3.at (bytesOf y3 3))) :=
        bytesOf_sum4 _ _ _ _
    _ = sum4 (mixColumn (single 0 (fsb.at (bytesOf y0 0))))
          (mixColumn (single 1 (fsb.at (bytesOf y1 1))))
          (mixColumn (single 2 (fsb.at (bytesOf y2 2))))
          (mixColumn (single 3 (fsb.at (bytesOf y3 3)))) := by
        rw [← entry, ← entry, ← entry, ← entry]
        rfl
    _ = _ := by rw [← sum4_single, mixColumn, circulant_sum4]

/-- One column of a reverse round: four lookups substitute and unmix. -/
theorem bytesOf_rcolumn (y0 y1 y2 y3 : UInt32) :
    bytesOf (rcolumn y0 y1 y2 y3) = unmixColumn (pick (rsb.at (bytesOf y0 0))
      (rsb.at (bytesOf y1 1)) (rsb.at (bytesOf y2 2)) (rsb.at (bytesOf y3 3))) := by
  have entry (place : Fin 4) (byte : UInt8) := rt_single place byte
  calc bytesOf (rcolumn y0 y1 y2 y3)
      = sum4 (bytesOf (rt0.at (bytesOf y0 0))) (bytesOf (rt1.at (bytesOf y1 1)))
          (bytesOf (rt2.at (bytesOf y2 2))) (bytesOf (rt3.at (bytesOf y3 3))) :=
        bytesOf_sum4 _ _ _ _
    _ = sum4 (unmixColumn (single 0 (rsb.at (bytesOf y0 0))))
          (unmixColumn (single 1 (rsb.at (bytesOf y1 1))))
          (unmixColumn (single 2 (rsb.at (bytesOf y2 2))))
          (unmixColumn (single 3 (rsb.at (bytesOf y3 3)))) := by
        rw [← entry, ← entry, ← entry, ← entry]
        rfl
    _ = _ := by rw [← sum4_single, unmixColumn, circulant_sum4]

/-- Four bytes moved to their places and added. -/
theorem bytesOf_moved (b0 b1 b2 b3 : UInt8) :
    bytesOf (b0.toUInt32 ^^^ (b1.toUInt32 <<< 8) ^^^ (b2.toUInt32 <<< 16) ^^^
      (b3.toUInt32 <<< 24)) = pick b0 b1 b2 b3 := by
  have still : b0.toUInt32 = placed 0 b0 := (UInt32.shiftLeft_zero).symm
  have alone (place : Fin 4) (byte : UInt8) : bytesOf (placed place byte) = single place byte := by
    funext row
    exact bytesOf_placed place byte row
  rw [bytesOf_sum4, still, ← sum4_single, ← alone 0, ← alone 1, ← alone 2, ← alone 3]
  rfl

/-- One column of a last round substitutes only. -/
theorem bytesOf_lastColumn (sb : ByteTable UInt8) (y0 y1 y2 y3 : UInt32) :
    bytesOf (lastColumn sb y0 y1 y2 y3) = pick (sb.at (bytesOf y0 0)) (sb.at (bytesOf y1 1))
      (sb.at (bytesOf y2 2)) (sb.at (bytesOf y3 3)) := by
  exact bytesOf_moved (sb.at (bytesOf y0 0)) (sb.at (bytesOf y1 1)) (sb.at (bytesOf y2 2))
    (sb.at (bytesOf y3 3))

/-- A word of the decryption's schedule is the unmixed word: the two substitutions cancel. -/
theorem bytesOf_invertedWord (word : UInt32) :
    bytesOf (invertedWord word) = unmixColumn (bytesOf word) := by
  have entry (place : Fin 4) (byte : UInt8) := rt_single place (fsb.at byte)
  have cancels (byte : UInt8) : rsb.at (fsb.at byte) = byte := (rsb_fsb byte).1
  have whole : pick (bytesOf word 0) (bytesOf word 1) (bytesOf word 2) (bytesOf word 3) =
      bytesOf word := by
    funext row
    rcases row_cases row with rfl | rfl | rfl | rfl <;> rfl
  calc bytesOf (invertedWord word)
      = sum4 (bytesOf (rt0.at (fsb.at (bytesOf word 0))))
          (bytesOf (rt1.at (fsb.at (bytesOf word 1))))
          (bytesOf (rt2.at (fsb.at (bytesOf word 2))))
          (bytesOf (rt3.at (fsb.at (bytesOf word 3)))) :=
        bytesOf_sum4 _ _ _ _
    _ = sum4 (unmixColumn (single 0 (rsb.at (fsb.at (bytesOf word 0)))))
          (unmixColumn (single 1 (rsb.at (fsb.at (bytesOf word 1)))))
          (unmixColumn (single 2 (rsb.at (fsb.at (bytesOf word 2)))))
          (unmixColumn (single 3 (rsb.at (fsb.at (bytesOf word 3))))) := by
        rw [← entry, ← entry, ← entry, ← entry]
        rfl
    _ = unmixColumn (bytesOf word) := by
        rw [cancels, cancels, cancels, cancels, unmixColumn, ← circulant_sum4, sum4_single, whole]

end Udp2raw.Aes
