import Mathlib.Algebra.GroupWithZero.Nat

/-!
# Cipher block chaining and cipher feedback

The two modes over an arbitrary block function, on byte lists. Chaining works block by
block and needs the block function to be inverted; feedback works byte by byte and uses
the forward function only, so it handles a last partial block. Both are inverse to
their decryption for every block function, key schedule and starting vector.
-/
namespace Udp2raw.BlockModes

variable {width : Nat}

/-- A block of a fixed number of bytes. -/
abbrev Block (width : Nat) := Vector UInt8 width

/-- The first bytes of a string as a block; a short string is filled up with zeros. -/
def blockOf (width : Nat) (data : List UInt8) : Block width :=
  Vector.ofFn fun place => data.getD place.val 0

/-- Bytewise exclusive or of two blocks. -/
def xorBlock (left right : Block width) : Block width :=
  Vector.zipWith (fun first second => first ^^^ second) left right

/-- A block in front of other bytes is read back. -/
theorem blockOf_append (block : Block width) (rest : List UInt8) :
    blockOf width (block.toList ++ rest) = block := by
  apply Vector.ext
  intro place inside
  simp [blockOf, List.getElem?_append_left]

/-- Dropping a leading block leaves the bytes after it. -/
theorem drop_append (block : Block width) (rest : List UInt8) :
    (block.toList ++ rest).drop width = rest := by
  have length : block.toList.length = width := by simp
  rw [List.drop_append_of_le_length (by omega), List.drop_eq_nil_of_le (by omega)]
  rfl

/-- A long enough string is its first block followed by the rest. -/
theorem blockOf_toList (data : List UInt8) (long : width ≤ data.length) :
    (blockOf width data).toList = data.take width := by
  apply List.ext_getElem
  · simp [long]
  · intro place left right
    have inside : place < data.length := by
      simp only [List.length_take] at right
      omega
    simp [blockOf, List.getElem?_eq_getElem inside]

/-- Exclusive or with the same block twice changes nothing. -/
theorem xorBlock_cancel (left right : Block width) :
    xorBlock (xorBlock left right) right = left := by
  apply Vector.ext
  intro place inside
  simp only [xorBlock, Vector.getElem_zipWith, UInt8.xor_assoc, UInt8.xor_self, UInt8.xor_zero]

/-- Chaining encryption of a number of blocks. -/
def cbcEncrypt (encrypt : Block width → Block width) : Nat → Block width → List UInt8 → List UInt8
  | 0, _, _ => []
  | count + 1, iv, data =>
    let output := encrypt (xorBlock (blockOf width data) iv)
    output.toList ++ cbcEncrypt encrypt count output (data.drop width)

/-- Chaining decryption of a number of blocks. -/
def cbcDecrypt (decrypt : Block width → Block width) : Nat → Block width → List UInt8 → List UInt8
  | 0, _, _ => []
  | count + 1, iv, data =>
    let input := blockOf width data
    (xorBlock (decrypt input) iv).toList ++ cbcDecrypt decrypt count input (data.drop width)

/-- The chaining mode writes whole blocks. -/
theorem cbcEncrypt_length (encrypt : Block width → Block width) (count : Nat) (iv : Block width)
    (data : List UInt8) : (cbcEncrypt encrypt count iv data).length = count * width := by
  induction count generalizing iv data with
  | zero => simp [cbcEncrypt]
  | succ count ih =>
    simp only [cbcEncrypt, List.length_append, ih, Vector.length_toList]
    rw [Nat.succ_mul, Nat.add_comm]

/-- Chaining decryption undoes chaining encryption of whole blocks. -/
theorem cbc_roundtrip (encrypt decrypt : Block width → Block width)
    (inverse : ∀ block, decrypt (encrypt block) = block) (count : Nat) (iv : Block width)
    (data : List UInt8) (whole : data.length = count * width) :
    cbcDecrypt decrypt count iv (cbcEncrypt encrypt count iv data) = data := by
  induction count generalizing iv data with
  | zero =>
    have empty : data = [] := List.eq_nil_of_length_eq_zero (by simpa using whole)
    simp [cbcDecrypt, empty]
  | succ count ih =>
    rw [Nat.succ_mul] at whole
    have rest : (data.drop width).length = count * width := by
      rw [List.length_drop]
      omega
    have long : width ≤ data.length := by omega
    simp only [cbcEncrypt, cbcDecrypt, blockOf_append, drop_append, inverse, xorBlock_cancel,
      ih _ _ rest, blockOf_toList data long, List.take_append_drop]

/-- The place after a place of the feedback register. -/
def nextPlace [NeZero width] (place : Fin width) : Fin width := place + 1

/-- Feedback encryption, one byte at a time: the register is encrypted whenever its first
place is reached, and every output byte replaces the register byte it used. -/
def cfbEncrypt [NeZero width] (encrypt : Block width → Block width) (iv : Block width)
    (place : Fin width) : List UInt8 → List UInt8
  | [] => []
  | byte :: rest =>
    let register := if place = 0 then encrypt iv else iv
    let output := register.get place ^^^ byte
    output :: cfbEncrypt encrypt (register.set place output) (nextPlace place) rest

/-- Feedback decryption uses the same register updates. -/
def cfbDecrypt [NeZero width] (encrypt : Block width → Block width) (iv : Block width)
    (place : Fin width) : List UInt8 → List UInt8
  | [] => []
  | byte :: rest =>
    let register := if place = 0 then encrypt iv else iv
    (byte ^^^ register.get place) ::
      cfbDecrypt encrypt (register.set place byte) (nextPlace place) rest

/-- The feedback mode keeps lengths. -/
theorem cfbEncrypt_length [NeZero width] (encrypt : Block width → Block width) (iv : Block width)
    (place : Fin width) (data : List UInt8) :
    (cfbEncrypt encrypt iv place data).length = data.length := by
  induction data generalizing iv place with
  | nil => rfl
  | cons byte rest ih => simp [cfbEncrypt, ih]

/-- Feedback decryption undoes feedback encryption from the same register. -/
theorem cfb_roundtrip [NeZero width] (encrypt : Block width → Block width) (iv : Block width)
    (place : Fin width) (data : List UInt8) :
    cfbDecrypt encrypt iv place (cfbEncrypt encrypt iv place data) = data := by
  induction data generalizing iv place with
  | nil => rfl
  | cons byte rest ih =>
    simp only [cfbEncrypt, cfbDecrypt, ih]
    rw [UInt8.xor_comm (Vector.get _ _) byte, UInt8.xor_assoc, UInt8.xor_self, UInt8.xor_zero]

end Udp2raw.BlockModes
