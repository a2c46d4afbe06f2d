import Mathlib.Algebra.Group.Nat.Defs

/-!
# Keyed hashes and derived keys

A keyed hash from a hash function with blocks of 64 bytes, the derivation of a key from a
password by iterating a keyed hash, and the expansion of a secret under a label. The hash
and the keyed hash are parameters.
-/
namespace Udp2raw.KeyDerivation

/-- A key filled up to a block with zeros; a longer key is hashed first. -/
def keyBlock (hash : List UInt8 → List UInt8) (key : List UInt8) : List UInt8 :=
  let key := if 64 < key.length then hash key else key
  key ++ List.replicate (64 - key.length) 0

/-- The keyed hash of a message. -/
def hmac (hash : List UInt8 → List UInt8) (key message : List UInt8) : List UInt8 :=
  hash ((keyBlock hash key).map (0x5C ^^^ ·) ++
    hash ((keyBlock hash key).map (0x36 ^^^ ·) ++ message))

/-- The bytewise sum of two strings. -/
def xorBytes (left right : List UInt8) : List UInt8 :=
  List.zipWith (fun first second => first ^^^ second) left right

/-- A keyed hash iterated from a first value. -/
def iterated (prf : List UInt8 → List UInt8) (first : List UInt8) : Nat → List UInt8
  | 0 => first
  | count + 1 => prf (iterated prf first count)

/-- The sum of a first value and its iterations. -/
def summed (prf : List UInt8 → List UInt8) (first : List UInt8) : Nat → List UInt8
  | 0 => first
  | count + 1 => xorBytes (summed prf first count) (iterated prf first (count + 1))

/-- A counter in four bytes, the highest first. -/
def counterBytes (counter : Nat) : List UInt8 :=
  [UInt8.ofNat (counter / 2 ^ 24), UInt8.ofNat (counter / 2 ^ 16), UInt8.ofNat (counter / 2 ^ 8),
    UInt8.ofNat counter]

/-- A block of the derived key: the iterations that start from the salt and the block's number. -/
def pbkdf2Block (prf : List UInt8 → List UInt8) (salt : List UInt8) (iterations number : Nat) :
    List UInt8 :=
  summed prf (prf (salt ++ counterBytes number)) (iterations - 1)

/-- Consecutive blocks from a number on. -/
def blocks (block : Nat → List UInt8) (first count : Nat) : List UInt8 :=
  ((List.range' first count).map block).flatten

/-- The number of blocks that a length needs. -/
def blocksFor (blockLength length : Nat) : Nat := (length + blockLength - 1) / blockLength

/-- The key of a length derived from a password, which keys the hash. -/
def pbkdf2 (prf : List UInt8 → List UInt8) (blockLength : Nat) (salt : List UInt8)
    (iterations length : Nat) : List UInt8 :=
  (blocks (pbkdf2Block prf salt iterations) 1 (blocksFor blockLength length)).take length

/-- A block of the expansion: the block before, the label and the block's number. -/
def expandBlock (prf : List UInt8 → List UInt8) (label : List UInt8) : Nat → List UInt8
  | 0 => []
  | number + 1 => prf (expandBlock prf label number ++ label ++ [UInt8.ofNat (number + 1)])

/-- The expansion of a secret, which keys the hash, to a length. -/
def hkdfExpand (prf : List UInt8 → List UInt8) (blockLength : Nat) (label : List UInt8)
    (length : Nat) : List UInt8 :=
  (blocks (expandBlock prf label) 1 (blocksFor blockLength length)).take length

/-- One block and the blocks behind it. -/
theorem blocks_succ (block : Nat → List UInt8) (first count : Nat) :
    blocks block first (count + 1) = block first ++ blocks block (first + 1) count := by
  rw [blocks, List.range'_succ, List.map_cons, List.flatten_cons, blocks]

/-- The number of blocks covers the length. -/
theorem blocksFor_enough (width length : Nat) (positive : 0 < width) :
    length ≤ width * blocksFor width length := by
  have split := Nat.div_add_mod (length + width - 1) width
  have rest := Nat.mod_lt (length + width - 1) positive
  rw [blocksFor]
  omega

/-- The length of consecutive blocks. -/
theorem blocks_length (block : Nat → List UInt8) (width : Nat)
    (wide : ∀ number, (block (number + 1)).length = width) (first count : Nat) :
    (blocks block (first + 1) count).length = width * count := by
  induction count generalizing first with
  | zero => rfl
  | succ count ih =>
    have sum : width * (count + 1) = width + width * count := by
      rw [Nat.mul_succ]
      omega
    rw [blocks_succ, List.length_append, wide, ih (first + 1), sum]

/-- Enough blocks, cut at a length, have that length. -/
theorem take_blocks_length (block : Nat → List UInt8) (width : Nat) (positive : 0 < width)
    (wide : ∀ number, (block (number + 1)).length = width) (length : Nat) :
    ((blocks block 1 (blocksFor width length)).take length).length = length := by
  have enough := blocksFor_enough width length positive
  have whole := blocks_length block width wide 0 (blocksFor width length)
  rw [List.length_take, whole]
  omega

/-- Sums keep the length. -/
theorem summed_length (prf : List UInt8 → List UInt8) (width : Nat)
    (wide : ∀ message, (prf message).length = width) (first : List UInt8)
    (start : first.length = width) (count : Nat) : (summed prf first count).length = width := by
  induction count with
  | zero => exact start
  | succ count ih =>
    have next : (iterated prf first (count + 1)).length = width := wide _
    rw [summed, xorBytes, List.length_zipWith, ih, next, Nat.min_self]

end Udp2raw.KeyDerivation
