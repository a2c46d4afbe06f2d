import Udp2raw.Lib.Hashing
import Udp2raw.Data.MessageDigest

/-!
# MD5

`md5.cpp` writes the four functions with fewer operations and lists the message word, the
rotation and the constant of every step. Its registers are the standard's.
-/
namespace Udp2raw.Md5

open BlockHash WordBytes MessageDigest Hashing

attribute [local instance] four_neZero sixteen_neZero

/-- `GET_UINT32_LE`. -/
def getUint32LE (buffer : List UInt8) (place : Nat) : UInt32 :=
  (buffer.getD place 0).toUInt32 |||
    ((buffer.getD (place + 1) 0).toUInt32 <<< 8) |||
    ((buffer.getD (place + 2) 0).toUInt32 <<< 16) |||
    ((buffer.getD (place + 3) 0).toUInt32 <<< 24)

/-- `PUT_UINT32_LE`. -/
def putUint32LE (word : UInt32) : List UInt8 :=
  [(word &&& 0xFF).toUInt8, ((word >>> 8) &&& 0xFF).toUInt8, ((word >>> 16) &&& 0xFF).toUInt8,
    ((word >>> 24) &&& 0xFF).toUInt8]

/-- The macro `S`. -/
def S (x : UInt32) (n : Nat) : UInt32 :=
  (x <<< UInt32.ofNat n) ||| ((x &&& 0xFFFFFFFF) >>> UInt32.ofNat (32 - n))

/-- The macro `F` of a call. -/
def F (i : Nat) (x y z : UInt32) : UInt32 :=
  if i < 16 then z ^^^ (x &&& (y ^^^ z))
  else if i < 32 then y ^^^ (z &&& (x ^^^ y))
  else if i < 48 then x ^^^ y ^^^ z
  else y ^^^ (x ||| ~~~z)

/-- The last three arguments of the calls of `P`: message word, rotation and constant. -/
def arguments : List (Nat × Nat × UInt32) :=
  [(0, 7, 0xD76AA478), (1, 12, 0xE8C7B756), (2, 17, 0x242070DB), (3, 22, 0xC1BDCEEE),
    (4, 7, 0xF57C0FAF), (5, 12, 0x4787C62A), (6, 17, 0xA8304613), (7, 22, 0xFD469501),
    (8, 7, 0x698098D8), (9, 12, 0x8B44F7AF), (10, 17, 0xFFFF5BB1), (11, 22, 0x895CD7BE),
    (12, 7, 0x6B901122), (13, 12, 0xFD987193), (14, 17, 0xA679438E), (15, 22, 0x49B40821),
    (1, 5, 0xF61E2562), (6, 9, 0xC040B340), (11, 14, 0x265E5A51), (0, 20, 0xE9B6C7AA),
    (5, 5, 0xD62F105D), (10, 9, 0x02441453), (15, 14, 0xD8A1E681), (4, 20, 0xE7D3FBC8),
    (9, 5, 0x21E1CDE6), (14, 9, 0xC33707D6), (3, 14, 0xF4D50D87), (8, 20, 0x455A14ED),
    (13, 5, 0xA9E3E905), (2, 9, 0xFCEFA3F8), (7, 14, 0x676F02D9), (12, 20, 0x8D2A4C8A),
    (5, 4, 0xFFFA3942), (8, 11, 0x8771F681), (11, 16, 0x6D9D6122), (14, 23, 0xFDE5380C),
    (1, 4, 0xA4BEEA44), (4, 11, 0x4BDECFA9), (7, 16, 0xF6BB4B60), (10, 23, 0xBEBFBC70),
    (13, 4, 0x289B7EC6), (0, 11, 0xEAA127FA), (3, 16, 0xD4EF3085), (6, 23, 0x04881D05),
    (9, 4, 0xD9D4D039), (12, 11, 0xE6DB99E5), (15, 16, 0x1FA27CF8), (2, 23, 0xC4AC5665),
    (0, 6, 0xF4292244), (7, 10, 0x432AFF97), (14, 15, 0xAB9423A7), (5, 21, 0xFC93A039),
    (12, 6, 0x655B59C3), (3, 10, 0x8F0CCC92), (10, 15, 0xFFEFF47D), (1, 21, 0x85845DD1),
    (8, 6, 0x6FA87E4F), (15, 10, 0xFE2CE6E0), (6, 15, 0xA3014314), (13, 21, 0x4E0811A1),
    (4, 6, 0xF7537E82), (11, 10, 0xBD3AF235), (2, 15, 0x2AD7D2BB), (9, 21, 0xEB86D391)]

/-- The macro `P`. The calls name the registers one place further each time, so the result is
given under the names of the next call. -/
def P (i : Nat) (v : Four) (word : UInt32) (s : Nat) (t : UInt32) : Four :=
  let a := v.a + (F i v.b v.c v.d + word + t)
  let a := S a s + v.b
  ⟨v.d, a, v.b, v.c⟩

/-- The first calls of `P` in `md5_process`, on the words `X`. -/
def calls (X : Nat → UInt32) (v : Four) : Nat → Four
  | 0 => v
  | i + 1 =>
    let (k, s, t) := arguments.getD i (0, 0, 0)
    P i (calls X v i) (X k) s t

/-- `md5_process`. -/
def md5Process (state : Four) (data : List UInt8) : Four :=
  let X (place : Nat) := getUint32LE data (4 * place)
  let v := calls X state 64
  ⟨state.a + v.a, state.b + v.b, state.c + v.c, state.d + v.d⟩

/-- The bytes that `md5_finish` writes. -/
def md5Put (state : Four) : List UInt8 :=
  putUint32LE state.a ++ putUint32LE state.b ++ putUint32LE state.c ++ putUint32LE state.d

/-- The hash functions of `md5.cpp`. -/
def md5Kind : HashKind where
  State := Four
  start := ⟨0x67452301, 0xEFCDAB89, 0x98BADCFE, 0x10325476⟩
  process := md5Process
  counted length := length % 2 ^ 32
  counted_small _ small := Nat.mod_eq_of_lt small
  msglen low high := putUint32LE low ++ putUint32LE high
  msglen_length _ _ := rfl
  output := md5Put
  digestLength := 16
  output_length _ := rfl
  digest_fits := by decide

/-- `md5_context`. -/
abbrev Md5Context := HashContext Four

/-- `md5_init`: a context of zeros. -/
def md5Init : Md5Context := ⟨0, 0, ⟨0, 0, 0, 0⟩, List.replicate 64 0⟩

/-- `md5_starts`. -/
def md5Starts (ctx : Md5Context) : Md5Context := starts md5Kind ctx

/-- `md5_update`. -/
def md5Update (ctx : Md5Context) (input : List UInt8) : Md5Context := update md5Kind ctx input

/-- `md5_finish`. -/
def md5Finish (ctx : Md5Context) : List UInt8 × Md5Context := finish md5Kind ctx

/-- `md5`. -/
def md5 (input : List UInt8) : List UInt8 := (md5Finish (md5Update (md5Starts md5Init) input)).1

/-! ### The standard's steps -/

/-- The four functions written with fewer operations. -/
theorem F_eq (i : Nat) (x y z : UInt32) : F i x y z = function i x y z := by
  have chosen : ∀ x y z : Bool, (z ^^ (x && (y ^^ z))) = ((x && y) || (!x && z)) := by decide
  have turned : ∀ x y z : Bool, (y ^^ (z && (x ^^ y))) = ((x && z) || (y && !z)) := by decide
  have first : z ^^^ (x &&& (y ^^^ z)) = (x &&& y) ||| (~~~x &&& z) := by
    apply UInt32.toBitVec_inj.mp
    apply BitVec.eq_of_getLsbD_eq
    intro bit inside
    simp only [UInt32.toBitVec_xor, UInt32.toBitVec_and, UInt32.toBitVec_or, UInt32.toBitVec_not,
      BitVec.getLsbD_xor, BitVec.getLsbD_and, BitVec.getLsbD_or, BitVec.getLsbD_not, inside,
      decide_true, Bool.true_and]
    exact chosen _ _ _
  have second : y ^^^ (z &&& (x ^^^ y)) = (x &&& z) ||| (y &&& ~~~z) := by
    apply UInt32.toBitVec_inj.mp
    apply BitVec.eq_of_getLsbD_eq
    intro bit inside
    simp only [UInt32.toBitVec_xor, UInt32.toBitVec_and, UInt32.toBitVec_or, UInt32.toBitVec_not,
      BitVec.getLsbD_xor, BitVec.getLsbD_and, BitVec.getLsbD_or, BitVec.getLsbD_not, inside,
      decide_true, Bool.true_and]
    exact turned _ _ _
  rw [F, function, first, second]

/-- The listed arguments are the standard's. -/
theorem arguments_eq (i : Nat) (inside : i < 64) :
    arguments.getD i (0, 0, 0) = (wordIndex i, rotation i, sines.getD i 0) ∧
      0 < rotation i ∧ rotation i < 32 := by
  have listed : ∀ i : Fin 64,
      arguments.getD i.val (0, 0, 0) = (wordIndex i.val, rotation i.val, sines.getD i.val 0) ∧
        0 < rotation i.val ∧ rotation i.val < 32 := by decide +kernel
  exact listed ⟨i, inside⟩

/-- The macro `S` rotates. -/
theorem S_eq (x : UInt32) (n : Nat) : S x n = rotl n x := by
  have all : x &&& 0xFFFFFFFF = x := by
    apply UInt32.toNat_inj.mp
    rw [UInt32.toNat_and]
    have masked := Nat.and_two_pow_sub_one_eq_mod x.toNat 32
    exact masked.trans (Nat.mod_eq_of_lt x.toNat_lt)
  rw [S, all, rotl]

/-- The calls of `P` are the steps. -/
theorem calls_steps (X : Nat → UInt32) (v : Four) (i : Nat) (within : i ≤ 64) :
    calls X v i = steps X i v := by
  induction i with
  | zero => rfl
  | succ i ih =>
    have listed := arguments_eq i (by omega)
    have before := ih (by omega)
    have sum (a b c d : UInt32) : a + (b + c + d) = a + b + c + d := by ac_rfl
    rw [calls, steps, step, before, listed.1]
    simp only [P, F_eq, S_eq, sum]
    rw [UInt32.add_comm (rotl _ _)]

/-- Processing a block compresses it. -/
theorem md5Process_eq (state : Four) (data : List UInt8) :
    md5Process state data = compress state data := by
  rw [md5Process, compress]
  have loaded : (fun place => getUint32LE data (4 * place)) = MessageDigest.wordAt data := rfl
  have reached := calls_steps (MessageDigest.wordAt data) state 64 (by decide)
  rw [← loaded] at reached ⊢
  simp only [reached]

/-- The stored bytes of a word. -/
theorem putUint32LE_eq (word : UInt32) : putUint32LE word = littleEndian word := by
  have still : word >>> shiftOf 0 = word := UInt32.shiftRight_zero
  have first : (word &&& 0xFF).toUInt8 = bytesOf word 0 := by
    rw [bytesOf, byteAt, still]
  rw [putUint32LE, littleEndian, first]
  rfl

/-- The digest of the library is the standard's. -/
theorem md5Kind_digest (message : List UInt8) :
    digest md5Kind.process md5Kind.field md5Kind.start md5Kind.output message =
      MessageDigest.md5 message := by
  have process : md5Process = compress := by
    funext state data
    exact md5Process_eq state data
  have written : md5Put = output := by
    funext state
    simp only [md5Put, output, putUint32LE_eq]
  have fields : md5Kind.field = MessageDigest.field := by
    funext bits
    simp only [HashKind.field, md5Kind, MessageDigest.field, putUint32LE_eq]
  rw [MessageDigest.md5, ← process, ← written, ← fields]
  rfl

/-- A context fed a message in pieces finishes with the MD5 digest of the whole message. -/
theorem md5Finish_standard (ctx : Md5Context) (size : ctx.buffer.length = 64)
    (pieces : List (List UInt8)) (small : ∀ piece ∈ pieces, piece.length < 2 ^ 32) :
    (md5Finish (pieces.foldl md5Update (md5Starts ctx))).1 =
      MessageDigest.md5 pieces.flatten := by
  have fed := @finish_pieces md5Kind ctx size pieces small
  exact fed.trans (md5Kind_digest pieces.flatten)

/-- The same for two pieces. -/
theorem md5Finish_standard_two :
    (md5Finish ([[97], [98, 99]].foldl md5Update (md5Starts md5Init))).1 =
      MessageDigest.md5 [97, 98, 99] :=
  md5Finish_standard md5Init rfl [[97], [98, 99]] (by decide)

end Udp2raw.Md5
