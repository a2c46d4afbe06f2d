import Udp2raw.Data.BlockHash
import Udp2raw.Data.WordBytes

/-!
# The secure hash functions on words

SHA-1 and SHA-256 as the standard writes them: 32-bit words in big endian order, a message
schedule given by its recurrence, one round function with its constants, and the sum of the
rounds with the state before. A wider register computes the same low word.
-/
namespace Udp2raw.SecureHash

open BlockHash WordBytes

attribute [local instance] four_neZero sixteen_neZero

/-- Rotation to the right. -/
def rotr (count : Nat) (word : UInt32) : UInt32 :=
  (word >>> UInt32.ofNat count) ||| (word <<< UInt32.ofNat (32 - count))

/-- `Ch`: the first word chooses between the other two. -/
def choose (x y z : UInt32) : UInt32 := (x &&& y) ^^^ (~~~x &&& z)

/-- `Parity`. -/
def parity (x y z : UInt32) : UInt32 := x ^^^ y ^^^ z

/-- `Maj`: the bits that two of three words agree on. -/
def majority (x y z : UInt32) : UInt32 := (x &&& y) ^^^ (x &&& z) ^^^ (y &&& z)

/-- The big endian word at a place of a block. -/
def wordAt (block : List UInt8) (place : Nat) : UInt32 :=
  ofBytes (block.getD (4 * place + 3) 0) (block.getD (4 * place + 2) 0)
    (block.getD (4 * place + 1) 0) (block.getD (4 * place) 0)

/-- The bytes of a word, the highest first. -/
def bigEndian (word : UInt32) : List UInt8 :=
  [bytesOf word 3, bytesOf word 2, bytesOf word 1, bytesOf word 0]

/-- The length field. -/
def field (bits : Nat) : List UInt8 :=
  bigEndian (UInt32.ofNat (bits / 2 ^ 32)) ++ bigEndian (UInt32.ofNat bits)

/-! ### SHA-1 -/

/-- Five registers. -/
structure Five (Word : Type) where
  /-- The first register. -/
  a : Word
  /-- The second register. -/
  b : Word
  /-- The third register. -/
  c : Word
  /-- The fourth register. -/
  d : Word
  /-- The fifth register. -/
  e : Word

/-- The registers under a map of words. -/
def Five.map {Word Other : Type} (view : Word → Other) (v : Five Word) : Five Other :=
  ⟨view v.a, view v.b, view v.c, view v.d, view v.e⟩

/-- The sums of two registers each. -/
def Five.add {Word : Type} [Add Word] (left right : Five Word) : Five Word :=
  ⟨left.a + right.a, left.b + right.b, left.c + right.c, left.d + right.d, left.e + right.e⟩

/-- The message schedule. -/
def sha1Schedule (block : Nat → UInt32) (t : Nat) : UInt32 :=
  if t < 16 then block t
  else rotl 1 (sha1Schedule block (t - 3) ^^^ sha1Schedule block (t - 8) ^^^
    sha1Schedule block (t - 14) ^^^ sha1Schedule block (t - 16))
termination_by t

/-- The function of a round. -/
def sha1Function (t : Nat) : UInt32 → UInt32 → UInt32 → UInt32 :=
  if t < 20 then choose else if t < 40 then parity else if t < 60 then majority else parity

/-- The constant of a round. -/
def sha1Constant (t : Nat) : UInt32 :=
  if t < 20 then 0x5A827999 else if t < 40 then 0x6ED9EBA1
  else if t < 60 then 0x8F1BBCDC else 0xCA62C1D6

/-- A round. -/
def sha1Round (t : Nat) (word : UInt32) (v : Five UInt32) : Five UInt32 :=
  ⟨rotl 5 v.a + sha1Function t v.b v.c v.d + v.e + sha1Constant t + word, v.a, rotl 30 v.b,
    v.c, v.d⟩

/-- The first rounds. -/
def sha1Rounds (block : Nat → UInt32) : Nat → Five UInt32 → Five UInt32
  | 0, v => v
  | t + 1, v => sha1Round t (sha1Schedule block t) (sha1Rounds block t v)

/-- The compression of a block. -/
def sha1Compress (state : Five UInt32) (block : List UInt8) : Five UInt32 :=
  state.add (sha1Rounds (wordAt block) 80 state)

/-- The initial hash value. -/
def sha1Start : Five UInt32 := ⟨0x67452301, 0xEFCDAB89, 0x98BADCFE, 0x10325476, 0xC3D2E1F0⟩

/-- The bytes of the registers. -/
def sha1Output (state : Five UInt32) : List UInt8 :=
  bigEndian state.a ++ bigEndian state.b ++ bigEndian state.c ++ bigEndian state.d ++
    bigEndian state.e

/-- The SHA-1 digest of a message. -/
def sha1 (message : List UInt8) : List UInt8 :=
  digest sha1Compress field sha1Start sha1Output message

/-! ### SHA-256 -/

/-- Eight registers. -/
structure Eight (Word : Type) where
  /-- The first register. -/
  a : Word
  /-- The second register. -/
  b : Word
  /-- The third register. -/
  c : Word
  /-- The fourth register. -/
  d : Word
  /-- The fifth register. -/
  e : Word
  /-- The sixth register. -/
  f : Word
  /-- The seventh register. -/
  g : Word
  /-- The eighth register. -/
  h : Word

/-- The registers under a map of words. -/
def Eight.map {Word Other : Type} (view : Word → Other) (v : Eight Word) : Eight Other :=
  ⟨view v.a, view v.b, view v.c, view v.d, view v.e, view v.f, view v.g, view v.h⟩

/-- The sums of two registers each. -/
def Eight.add {Word : Type} [Add Word] (left right : Eight Word) : Eight Word :=
  ⟨left.a + right.a, left.b + right.b, left.c + right.c, left.d + right.d, left.e + right.e,
    left.f + right.f, left.g + right.g, left.h + right.h⟩

/-- `σ0`. -/
def smallSigma0 (x : UInt32) : UInt32 := rotr 7 x ^^^ rotr 18 x ^^^ (x >>> 3)

/-- `σ1`. -/
def smallSigma1 (x : UInt32) : UInt32 := rotr 17 x ^^^ rotr 19 x ^^^ (x >>> 10)

/-- `Σ0`. -/
def bigSigma0 (x : UInt32) : UInt32 := rotr 2 x ^^^ rotr 13 x ^^^ rotr 22 x

/-- `Σ1`. -/
def bigSigma1 (x : UInt32) : UInt32 := rotr 6 x ^^^ rotr 11 x ^^^ rotr 25 x

/-- The message schedule. -/
def sha256Schedule (block : Nat → UInt32) (t : Nat) : UInt32 :=
  if t < 16 then block t
  else smallSigma1 (sha256Schedule block (t - 2)) + sha256Schedule block (t - 7) +
    smallSigma0 (sha256Schedule block (t - 15)) + sha256Schedule block (t - 16)
termination_by t

/-- A round with its constant and its schedule word. -/
def sha256Round (constant word : UInt32) (v : Eight UInt32) : Eight UInt32 :=
  let t1 := v.h + bigSigma1 v.e + choose v.e v.f v.g + constant + word
  let t2 := bigSigma0 v.a + majority v.a v.b v.c
  ⟨t1 + t2, v.a, v.b, v.c, v.d + t1, v.e, v.f, v.g⟩

/-- The constants of the rounds: the first bits of the cube roots of the first primes. -/
def sha256Constants : List UInt32 :=
  [0x428A2F98, 0x71374491, 0xB5C0FBCF, 0xE9B5DBA5, 0x3956C25B, 0x59F111F1,
    0x923F82A4, 0xAB1C5ED5, 0xD807AA98, 0x12835B01, 0x243185BE, 0x550C7DC3,
    0x72BE5D74, 0x80DEB1FE, 0x9BDC06A7, 0xC19BF174, 0xE49B69C1, 0xEFBE4786,
    0x0FC19DC6, 0x240CA1CC, 0x2DE92C6F, 0x4A7484AA, 0x5CB0A9DC, 0x76F988DA,
    0x983E5152, 0xA831C66D, 0xB00327C8, 0xBF597FC7, 0xC6E00BF3, 0xD5A79147,
    0x06CA6351, 0x14292967, 0x27B70A85, 0x2E1B2138, 0x4D2C6DFC, 0x53380D13,
    0x650A7354, 0x766A0ABB, 0x81C2C92E, 0x92722C85, 0xA2BFE8A1, 0xA81A664B,
    0xC24B8B70, 0xC76C51A3, 0xD192E819, 0xD6990624, 0xF40E3585, 0x106AA070,
    0x19A4C116, 0x1E376C08, 0x2748774C, 0x34B0BCB5, 0x391C0CB3, 0x4ED8AA4A,
    0x5B9CCA4F, 0x682E6FF3, 0x748F82EE, 0x78A5636F, 0x84C87814, 0x8CC70208,
    0x90BEFFFA, 0xA4506CEB, 0xBEF9A3F7, 0xC67178F2]

/-- The first rounds. -/
def sha256Rounds (block : Nat → UInt32) : Nat → Eight UInt32 → Eight UInt32
  | 0, v => v
  | t + 1, v =>
    sha256Round (sha256Constants.getD t 0) (sha256Schedule block t) (sha256Rounds block t v)

/-- The compression of a block. -/
def sha256Compress (state : Eight UInt32) (block : List UInt8) : Eight UInt32 :=
  state.add (sha256Rounds (wordAt block) 64 state)

/-- The initial hash value, or the one of the shorter digest. -/
def sha256Start (is224 : Bool) : Eight UInt32 :=
  if is224 then
    ⟨0xC1059ED8, 0x367CD507, 0x3070DD17, 0xF70E5939, 0xFFC00B31, 0x68581511, 0x64F98FA7,
      0xBEFA4FA4⟩
  else
    ⟨0x6A09E667, 0xBB67AE85, 0x3C6EF372, 0xA54FF53A, 0x510E527F, 0x9B05688C, 0x1F83D9AB,
      0x5BE0CD19⟩

/-- The bytes of the registers; the shorter digest leaves the last one out. -/
def sha256Output (is224 : Bool) (state : Eight UInt32) : List UInt8 :=
  bigEndian state.a ++ bigEndian state.b ++ bigEndian state.c ++ bigEndian state.d ++
    bigEndian state.e ++ bigEndian state.f ++ bigEndian state.g ++
    (if is224 then [] else bigEndian state.h)

/-- The SHA-256 digest of a message, or its SHA-224 digest. -/
def sha256 (is224 : Bool) (message : List UInt8) : List UInt8 :=
  digest sha256Compress field (sha256Start is224) (sha256Output is224) message

/-! ### Wide registers -/

/-- The low word of a wide register. -/
def low (word : UInt64) : UInt32 := word.toUInt32

/-- The bits of the low word. -/
theorem low_bit (word : UInt64) (bit : Nat) (inside : bit < 32) :
    (low word).toBitVec.getLsbD bit = word.toBitVec.getLsbD bit := by
  simp [low, inside]

/-- The low word of a sum. -/
theorem low_add (left right : UInt64) : low (left + right) = low left + low right :=
  UInt64.toUInt32_add left right

/-- The low word of an exclusive or. -/
theorem low_xor (left right : UInt64) : low (left ^^^ right) = low left ^^^ low right :=
  UInt64.toUInt32_xor left right

/-- The low word of a conjunction. -/
theorem low_and (left right : UInt64) : low (left &&& right) = low left &&& low right :=
  UInt64.toUInt32_and left right

/-- The low word of a disjunction. -/
theorem low_or (left right : UInt64) : low (left ||| right) = low left ||| low right :=
  UInt64.toUInt32_or left right

/-- The low word of a shift to the left. -/
theorem low_shiftLeft (word : UInt64) (count : Nat) (small : count < 32) :
    low (word <<< UInt64.ofNat count) = low word <<< UInt32.ofNat count := by
  have wide : ((UInt64.ofNat count).toBitVec % 64).toNat = count := by
    simp
    omega
  have narrow : ((UInt32.ofNat count).toBitVec % 32).toNat = count := by
    simp
    omega
  apply UInt32.toBitVec_inj.mp
  apply BitVec.eq_of_getLsbD_eq
  intro bit inside
  rw [low_bit _ _ inside]
  simp only [UInt64.toBitVec_shiftLeft, UInt32.toBitVec_shiftLeft, BitVec.shiftLeft_eq',
    BitVec.getLsbD_shiftLeft, wide, narrow]
  by_cases before : bit < count
  · simp [before]
  · have same := low_bit word (bit - count) (by omega)
    have within : bit < 64 := by omega
    simp [before, inside, within, same]

/-- The low word of a masked shift to the right. -/
theorem low_shiftRight (word : UInt64) (count : Nat) (small : count < 32) :
    low ((word &&& 0xFFFFFFFF) >>> UInt64.ofNat count) = low word >>> UInt32.ofNat count := by
  have wide : ((UInt64.ofNat count).toBitVec % 64).toNat = count := by
    simp
    omega
  have narrow : ((UInt32.ofNat count).toBitVec % 32).toNat = count := by
    simp
    omega
  have masked : word &&& 0xFFFFFFFF = (low word).toUInt64 := by
    apply UInt64.toNat_inj.mp
    have bound : (low word).toNat = word.toNat % 2 ^ 32 := UInt64.toNat_toUInt32 word
    rw [UInt64.toNat_and, UInt32.toNat_toUInt64, bound]
    exact Nat.and_two_pow_sub_one_eq_mod word.toNat 32
  rw [masked]
  apply UInt32.toBitVec_inj.mp
  apply BitVec.eq_of_getLsbD_eq
  intro bit inside
  rw [low_bit _ _ inside]
  simp only [UInt64.toBitVec_shiftRight, UInt32.toBitVec_shiftRight, BitVec.ushiftRight_eq',
    BitVec.getLsbD_ushiftRight, wide, narrow, UInt32.toBitVec_toUInt64, BitVec.getLsbD_setWidth]
  by_cases within : count + bit < 64
  · simp [within]
  · omega

/-- The choice as three operations. -/
theorem choose_eq (x y z : UInt32) : z ^^^ (x &&& (y ^^^ z)) = choose x y z := by
  apply UInt32.toBitVec_inj.mp
  apply BitVec.eq_of_getLsbD_eq
  intro bit inside
  have same : ∀ x y z : Bool, (z ^^ (x && (y ^^ z))) = ((x && y) ^^ (!x && z)) := by decide
  simp only [choose, UInt32.toBitVec_xor, UInt32.toBitVec_and, UInt32.toBitVec_not,
    BitVec.getLsbD_xor, BitVec.getLsbD_and, BitVec.getLsbD_not, inside, decide_true, Bool.true_and]
  exact same _ _ _

/-- The majority as four operations. -/
theorem majority_eq (x y z : UInt32) : (x &&& y) ||| (z &&& (x ||| y)) = majority x y z := by
  apply UInt32.toBitVec_inj.mp
  apply BitVec.eq_of_getLsbD_eq
  intro bit inside
  have same : ∀ x y z : Bool,
      ((x && y) || (z && (x || y))) = ((x && y) ^^ (x && z) ^^ (y && z)) := by decide
  simp only [majority, UInt32.toBitVec_xor, UInt32.toBitVec_and, UInt32.toBitVec_or,
    BitVec.getLsbD_xor, BitVec.getLsbD_and, BitVec.getLsbD_or]
  exact same _ _ _

end Udp2raw.SecureHash
