import Udp2raw.Lib.Sha1

/-!
# SHA-256

`pbkdf2-sha256.cpp` works like the SHA-1 library, with eight registers, a schedule of
sixty-four words that is filled as the rounds go, and the shorter SHA-224 as a variant. The
low words of its registers are again the standard's.
-/
namespace Udp2raw.Sha256

open BlockHash WordBytes SecureHash Hashing
open Sha1 (getUlongBE putUlongBE low_getUlongBE putUlongBE_eq lengthBytes_length)

attribute [local instance] four_neZero sixteen_neZero

/-- The macro `SHR`. -/
def SHR (x : UInt64) (n : Nat) : UInt64 := (x &&& 0xFFFFFFFF) >>> UInt64.ofNat n

/-- The macro `ROTR`. -/
def ROTR (x : UInt64) (n : Nat) : UInt64 := SHR x n ||| (x <<< UInt64.ofNat (32 - n))

/-- The macro `S0`. -/
def S0 (x : UInt64) : UInt64 := ROTR x 7 ^^^ ROTR x 18 ^^^ SHR x 3

/-- The macro `S1`. -/
def S1 (x : UInt64) : UInt64 := ROTR x 17 ^^^ ROTR x 19 ^^^ SHR x 10

/-- The macro `S2`. -/
def S2 (x : UInt64) : UInt64 := ROTR x 2 ^^^ ROTR x 13 ^^^ ROTR x 22

/-- The macro `S3`. -/
def S3 (x : UInt64) : UInt64 := ROTR x 6 ^^^ ROTR x 11 ^^^ ROTR x 25

/-- The macro `F0`. -/
def F0 (x y z : UInt64) : UInt64 := (x &&& y) ||| (z &&& (x ||| y))

/-- The macro `F1`. -/
def F1 (x y z : UInt64) : UInt64 := z ^^^ (x &&& (y ^^^ z))

/-- The macro `R` on the words `W` filled so far: the value of the next one. -/
def R (W : List UInt64) (t : Nat) : UInt64 :=
  S1 (W.getD (t - 2) 0) + W.getD (t - 7) 0 + S0 (W.getD (t - 15) 0) + W.getD (t - 16) 0

/-- The constants of the calls of `P`. -/
def constants : List UInt64 :=
  [0x428A2F98, 0x71374491, 0xB5C0FBCF, 0xE9B5DBA5, 0x3956C25B, 0x59F111F1,
    0x923F82A4, 0xAB1C5ED5, 0xD807AA98, 0x12835B01, 0x243185BE, 0x550C7DC3,
    0x72BE5D74, 0x80DEB1FE, 0x9BDC06A7, 0xC19BF174, 0xE49B69C1, 0xEFBE4786,
    0x0FC19DC6, 0x240CA1CC, 0x2DE92C6F, 0x4A7484AA, 0x5CB0A9DC, 0x76F988DA,
    0x983E5152, 0xA831C66D, 0xB00327C8, 0xBF597FC7, 0xC6E00BF3, 0xD5A79147,
    0x06CA6351, 0x14292967, 0x27B70A85, 0x2E1B2138, 0x4D2C6DFC, 0x53380D13,
    0x650A7354, 0x766A0ABB, 0x81C2C92E, 0x92722C85, 0xA2BFE8A1, 0xA81A664B,
    0xC24B8B70, 0xC76C51A3, 0xD192E819, 0xD6990624, 0xF40E3585, 0x106AA070,
    0x19A4C116, 0x1E376C08, 0x2748774C, 0x34B0BCB5, 0x391C0CB3, 0x4ED8AA4A,
    0x5B9CCA4F, 0x682E6FF3, 0x748F82EE, 0x78A5636F, 0x84C87814, 0x8CC70208,
    0x90BEFFFA, 0xA4506CEB, 0xBEF9A3F7, 0xC67178F2]

/-- The macro `P`. The calls name the registers one place further each time, so the result is
given under the names of the next call. -/
def P (v : Eight UInt64) (x K : UInt64) : Eight UInt64 :=
  let temp1 := v.h + S3 v.e + F1 v.e v.f v.g + K + x
  let temp2 := S2 v.a + F0 v.a v.b v.c
  let d := v.d + temp1
  let h := temp1 + temp2
  ⟨h, v.a, v.b, v.c, d, v.e, v.f, v.g⟩

/-- The first calls of `P` in `sha2_process`, with the words filled so far. -/
def calls (W : List UInt64) (v : Eight UInt64) : Nat → Eight UInt64 × List UInt64
  | 0 => (v, W)
  | t + 1 =>
    let (v, W) := calls W v t
    let W := if t < 16 then W else W ++ [R W t]
    (P v (W.getD t 0) (constants.getD t 0), W)

/-- `sha2_process`. -/
def sha2Process (state : Eight UInt64) (data : List UInt8) : Eight UInt64 :=
  let W := (List.range 16).map fun place => getUlongBE data (4 * place)
  state.add (calls W state 64).1

/-- The state that `sha2_starts` sets. -/
def sha2Start (is224 : Bool) : Eight UInt64 :=
  if is224 then
    ⟨0xC1059ED8, 0x367CD507, 0x3070DD17, 0xF70E5939, 0xFFC00B31, 0x68581511, 0x64F98FA7,
      0xBEFA4FA4⟩
  else
    ⟨0x6A09E667, 0xBB67AE85, 0x3C6EF372, 0xA54FF53A, 0x510E527F, 0x9B05688C, 0x1F83D9AB,
      0x5BE0CD19⟩

/-- The bytes that `sha2_finish` writes. -/
def sha2Put (is224 : Bool) (state : Eight UInt64) : List UInt8 :=
  putUlongBE state.a ++ putUlongBE state.b ++ putUlongBE state.c ++ putUlongBE state.d ++
    putUlongBE state.e ++ putUlongBE state.f ++ putUlongBE state.g ++
    (if is224 then [] else putUlongBE state.h)

/-- The hash functions of `pbkdf2-sha256.cpp`. -/
def sha2Kind (is224 : Bool) : HashKind where
  State := Eight UInt64
  start := sha2Start is224
  process := sha2Process
  counted length := length
  counted_small _ _ := rfl
  msglen low high := bigEndian high ++ bigEndian low
  msglen_length := lengthBytes_length
  output := sha2Put is224
  digestLength := if is224 then 28 else 32
  output_length state := by cases is224 <;> rfl
  digest_fits := by cases is224 <;> decide

/-- A context of either digest. -/
abbrev Sha2Context := HashContext (Eight UInt64)

/-- `sha2_starts`. -/
def sha2Starts (is224 : Bool) (ctx : Sha2Context) : Sha2Context := starts (sha2Kind is224) ctx

/-- `sha2_update`. -/
def sha2Update (is224 : Bool) (ctx : Sha2Context) (input : List UInt8) : Sha2Context :=
  update (sha2Kind is224) ctx input

/-- `sha2_finish`. -/
def sha2Finish (is224 : Bool) (ctx : Sha2Context) : List UInt8 × Sha2Context :=
  finish (sha2Kind is224) ctx

/-! ### Low words -/

/-- The low word of a masked shift. -/
theorem low_SHR (x : UInt64) (n : Nat) (small : n < 32) :
    low (SHR x n) = low x >>> UInt32.ofNat n := by
  rw [SHR, low_shiftRight x n small]

/-- The low word of a rotation. -/
theorem low_ROTR (x : UInt64) (n : Nat) (positive : 0 < n) (small : n < 32) :
    low (ROTR x n) = rotr n (low x) := by
  rw [ROTR, low_or, low_SHR x n small, low_shiftLeft x (32 - n) (by omega), rotr]

/-- The low words of the four mixing functions. -/
theorem low_mixings (x : UInt64) :
    low (S0 x) = smallSigma0 (low x) ∧ low (S1 x) = smallSigma1 (low x) ∧
      low (S2 x) = bigSigma0 (low x) ∧ low (S3 x) = bigSigma1 (low x) := by
  have turned (n : Nat) (inside : 0 < n ∧ n < 32) := low_ROTR x n inside.1 inside.2
  have three := low_SHR x 3 (by decide)
  have ten := low_SHR x 10 (by decide)
  refine ⟨?_, ?_, ?_, ?_⟩
  · rw [S0, low_xor, low_xor, turned 7 (by decide), turned 18 (by decide), three]
    rfl
  · rw [S1, low_xor, low_xor, turned 17 (by decide), turned 19 (by decide), ten]
    rfl
  · rw [S2, low_xor, low_xor, turned 2 (by decide), turned 13 (by decide), turned 22 (by decide)]
    rfl
  · rw [S3, low_xor, low_xor, turned 6 (by decide), turned 11 (by decide), turned 25 (by decide)]
    rfl

/-- The low words of the two bitwise functions. -/
theorem low_functions (x y z : UInt64) : low (F0 x y z) = majority (low x) (low y) (low z) ∧
    low (F1 x y z) = choose (low x) (low y) (low z) := by
  constructor
  · rw [F0, low_or, low_and, low_and, low_or, majority_eq]
  · rw [F1, low_xor, low_and, low_xor, choose_eq]

/-- The low words of a call of `P` are a round. -/
theorem map_P (v : Eight UInt64) (x K : UInt64) :
    (P v x K).map low = sha256Round (low K) (low x) (v.map low) := by
  have first := low_mixings v.a
  have fifth := low_mixings v.e
  have agreed := low_functions v.a v.b v.c
  have chosen := low_functions v.e v.f v.g
  simp only [P, Eight.map, sha256Round, low_add, first.2.2.1, fifth.2.2.2, agreed.1, chosen.2]

/-- The constants are the standard's. -/
theorem low_constants (t : Nat) : low (constants.getD t 0) = sha256Constants.getD t 0 := by
  have mapped : constants.map low = sha256Constants := by decide
  rw [← mapped, List.getD_eq_getElem?_getD, List.getD_eq_getElem?_getD, List.getElem?_map]
  cases constants[t]? with
  | none => rfl
  | some word => rfl

/-- The words filled so far are the schedule's. -/
def Holds (block : Nat → UInt32) (t : Nat) (W : List UInt64) : Prop :=
  W.length = max t 16 ∧ ∀ place, place < max t 16 →
    low (W.getD place 0) = sha256Schedule block place

/-- The next word is the schedule's. -/
theorem low_R (block : Nat → UInt32) (t : Nat) (later : 16 ≤ t) (W : List UInt64)
    (holds : Holds block t W) : low (R W t) = sha256Schedule block t := by
  have before (back : Nat) (inside : 0 < back ∧ back ≤ 16) :
      low (W.getD (t - back) 0) = sha256Schedule block (t - back) :=
    holds.2 (t - back) (by omega)
  have two := low_mixings (W.getD (t - 2) 0)
  have fifteen := low_mixings (W.getD (t - 15) 0)
  unfold sha256Schedule
  rw [if_neg (by omega), R]
  simp only [low_add, two.2.1, fifteen.1, before 2 (by omega), before 7 (by omega),
    before 15 (by omega), before 16 (by omega)]

/-- The calls of `P` are the rounds on low words. -/
theorem calls_rounds (block : Nat → UInt32) (W : List UInt64) (v : Eight UInt64)
    (holds : Holds block 0 W) (t : Nat) :
    (calls W v t).1.map low = sha256Rounds block t (v.map low) ∧
      Holds block t (calls W v t).2 := by
  induction t with
  | zero => exact ⟨rfl, holds⟩
  | succ t ih =>
    have reached := ih.2
    by_cases early : t < 16
    · have word : low ((calls W v t).2.getD t 0) = sha256Schedule block t :=
        reached.2 t (by omega)
      constructor
      · simp only [calls, if_pos early, map_P, word, low_constants, ih.1, sha256Rounds]
      · simp only [calls, if_pos early]
        constructor
        · rw [reached.1]
          omega
        · intro place inside
          exact reached.2 place (by omega)
    · have length : (calls W v t).2.length = t := by
        rw [reached.1]
        omega
      have value := low_R block t (by omega) (calls W v t).2 reached
      have last : ((calls W v t).2 ++ [R (calls W v t).2 t]).getD t 0 = R (calls W v t).2 t := by
        simp [List.getD_eq_getElem?_getD, length]
      constructor
      · simp only [calls, if_neg early, map_P, last, value, low_constants, ih.1, sha256Rounds]
      · simp only [calls, if_neg early]
        constructor
        · rw [List.length_append, length, List.length_singleton]
          omega
        · intro place inside
          by_cases here : place = t
          · rw [here, last, value]
          · have old : ((calls W v t).2 ++ [R (calls W v t).2 t]).getD place 0 =
                (calls W v t).2.getD place 0 := by
              have before : place < (calls W v t).2.length := by omega
              simp [List.getD_eq_getElem?_getD, List.getElem?_append_left before]
            rw [old]
            exact reached.2 place (by omega)

/-- Processing a block compresses the low words. -/
theorem map_sha2Process (state : Eight UInt64) (data : List UInt8) :
    (sha2Process state data).map low = sha256Compress (state.map low) data := by
  have loaded : Holds (SecureHash.wordAt data) 0
      ((List.range 16).map fun place => getUlongBE data (4 * place)) := by
    constructor
    · simp
    · intro place inside
      have small : place < 16 := by omega
      unfold sha256Schedule
      rw [if_pos small, ← low_getUlongBE]
      simp [List.getD_eq_getElem?_getD, small]
  have reached := (calls_rounds (SecureHash.wordAt data) _ state loaded 64).1
  have sums (left right : Eight UInt64) :
      (left.add right).map low = (left.map low).add (right.map low) := by
    simp only [Eight.map, Eight.add, low_add]
  rw [sha2Process, sums, reached, sha256Compress]

/-- The digest of the wide registers is the standard's. -/
theorem sha2Kind_digest (is224 : Bool) (message : List UInt8) :
    digest (sha2Kind is224).process (sha2Kind is224).field (sha2Kind is224).start
      (sha2Kind is224).output message = sha256 is224 message := by
  have absorbed (data : List UInt8) := @absorb_map _ _ _ 64 (Eight.map low) sha256Compress
    (fun state block _ => map_sha2Process state block) (sha2Start is224) data
  have written (state : Eight UInt64) :
      sha2Put is224 state = sha256Output is224 (state.map low) := by
    cases is224 <;> simp only [sha2Put, putUlongBE_eq, sha256Output, Eight.map]
  have start : Eight.map low (sha2Start is224) = sha256Start is224 := by
    cases is224 <;> rfl
  calc digest (sha2Kind is224).process (sha2Kind is224).field (sha2Kind is224).start
        (sha2Kind is224).output message
      = sha2Put is224 (absorb sha2Process 64 (sha2Start is224)
          (message ++ paddingOf (sha2Kind is224).field message.length)) := rfl
    _ = sha256Output is224 (absorb sha256Compress 64 (sha256Start is224)
          (message ++ paddingOf (sha2Kind is224).field message.length)) := by
        rw [written, absorbed, start]
    _ = sha256 is224 message := rfl

/-- A context fed a message in pieces finishes with the digest of the whole message. -/
theorem sha2Finish_standard (is224 : Bool) (ctx : Sha2Context) (size : ctx.buffer.length = 64)
    (pieces : List (List UInt8)) (small : ∀ piece ∈ pieces, piece.length < 2 ^ 32) :
    (sha2Finish is224 (pieces.foldl (sha2Update is224) (sha2Starts is224 ctx))).1 =
      sha256 is224 pieces.flatten := by
  have fed := @finish_pieces (sha2Kind is224) ctx size pieces small
  exact fed.trans (sha2Kind_digest is224 pieces.flatten)

/-- The same for two pieces. -/
theorem sha2Finish_standard_two :
    (sha2Finish false ([[97], [98, 99]].foldl (sha2Update false)
      (sha2Starts false ⟨0, 0, sha2Start false, List.replicate 64 0⟩))).1 =
        sha256 false [97, 98, 99] :=
  sha2Finish_standard false ⟨0, 0, sha2Start false, List.replicate 64 0⟩ rfl [[97], [98, 99]]
    (by decide)

end Udp2raw.Sha256
