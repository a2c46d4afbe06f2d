import Udp2raw.Data.BlockHash
import Udp2raw.Data.WordBytes

/-!
# The message digest function on words

MD5 as its specification writes it: little endian words, four registers, and sixty-four
steps of which each names its function, its message word, its constant and its rotation.
-/
namespace Udp2raw.MessageDigest

open BlockHash WordBytes

attribute [local instance] four_neZero sixteen_neZero

/-- The little endian word at a place of a block. -/
def wordAt (block : List UInt8) (place : Nat) : UInt32 :=
  ofBytes (block.getD (4 * place) 0) (block.getD (4 * place + 1) 0)
    (block.getD (4 * place + 2) 0) (block.getD (4 * place + 3) 0)

/-- The bytes of a word, the lowest first. -/
def littleEndian (word : UInt32) : List UInt8 :=
  [bytesOf word 0, bytesOf word 1, bytesOf word 2, bytesOf word 3]

/-- The length field. -/
def field (bits : Nat) : List UInt8 :=
  littleEndian (UInt32.ofNat bits) ++ littleEndian (UInt32.ofNat (bits / 2 ^ 32))

/-- Four registers. -/
structure Four where
  /-- The first register. -/
  a : UInt32
  /-- The second register. -/
  b : UInt32
  /-- The third register. -/
  c : UInt32
  /-- The fourth register. -/
  d : UInt32

/-- The function of a step. -/
def function (i : Nat) (x y z : UInt32) : UInt32 :=
  if i < 16 then (x &&& y) ||| (~~~x &&& z)
  else if i < 32 then (x &&& z) ||| (y &&& ~~~z)
  else if i < 48 then x ^^^ y ^^^ z
  else y ^^^ (x ||| ~~~z)

/-- The message word that a step reads. -/
def wordIndex (i : Nat) : Nat :=
  if i < 16 then i
  else if i < 32 then (5 * i + 1) % 16
  else if i < 48 then (3 * i + 5) % 16
  else 7 * i % 16

/-- The rotation of a step: four amounts for each of the four functions. -/
def rotation (i : Nat) : Nat :=
  if i < 16 then [7, 12, 17, 22].getD (i % 4) 0
  else if i < 32 then [5, 9, 14, 20].getD (i % 4) 0
  else if i < 48 then [4, 11, 16, 23].getD (i % 4) 0
  else [6, 10, 15, 21].getD (i % 4) 0

/-- The constants of the steps: the leading bits of sines. -/
def sines : List UInt32 :=
  [0xD76AA478, 0xE8C7B756, 0x242070DB, 0xC1BDCEEE, 0xF57C0FAF, 0x4787C62A,
    0xA8304613, 0xFD469501, 0x698098D8, 0x8B44F7AF, 0xFFFF5BB1, 0x895CD7BE,
    0x6B901122, 0xFD987193, 0xA679438E, 0x49B40821, 0xF61E2562, 0xC040B340,
    0x265E5A51, 0xE9B6C7AA, 0xD62F105D, 0x02441453, 0xD8A1E681, 0xE7D3FBC8,
    0x21E1CDE6, 0xC33707D6, 0xF4D50D87, 0x455A14ED, 0xA9E3E905, 0xFCEFA3F8,
    0x676F02D9, 0x8D2A4C8A, 0xFFFA3942, 0x8771F681, 0x6D9D6122, 0xFDE5380C,
    0xA4BEEA44, 0x4BDECFA9, 0xF6BB4B60, 0xBEBFBC70, 0x289B7EC6, 0xEAA127FA,
    0xD4EF3085, 0x04881D05, 0xD9D4D039, 0xE6DB99E5, 0x1FA27CF8, 0xC4AC5665,
    0xF4292244, 0x432AFF97, 0xAB9423A7, 0xFC93A039, 0x655B59C3, 0x8F0CCC92,
    0xFFEFF47D, 0x85845DD1, 0x6FA87E4F, 0xFE2CE6E0, 0xA3014314, 0x4E0811A1,
    0xF7537E82, 0xBD3AF235, 0x2AD7D2BB, 0xEB86D391]

/-- A step on the registers in the order of its call, and their order for the next call. -/
def step (block : Nat → UInt32) (i : Nat) (v : Four) : Four :=
  let sum := v.a + function i v.b v.c v.d + block (wordIndex i) + sines.getD i 0
  ⟨v.d, v.b + rotl (rotation i) sum, v.b, v.c⟩

/-- The first steps. -/
def steps (block : Nat → UInt32) : Nat → Four → Four
  | 0, v => v
  | i + 1, v => step block i (steps block i v)

/-- The compression of a block. -/
def compress (state : Four) (block : List UInt8) : Four :=
  let v := steps (wordAt block) 64 state
  ⟨state.a + v.a, state.b + v.b, state.c + v.c, state.d + v.d⟩

/-- The initial registers. -/
def start : Four := ⟨0x67452301, 0xEFCDAB89, 0x98BADCFE, 0x10325476⟩

/-- The bytes of the registers. -/
def output (state : Four) : List UInt8 :=
  littleEndian state.a ++ littleEndian state.b ++ littleEndian state.c ++ littleEndian state.d

/-- The MD5 digest of a message. -/
def md5 (message : List UInt8) : List UInt8 := digest compress field start output message

end Udp2raw.MessageDigest
