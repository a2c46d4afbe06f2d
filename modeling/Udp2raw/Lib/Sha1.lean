import Udp2raw.Lib.Hashing
import Udp2raw.Data.SecureHash

/-!
# SHA-1

`pbkdf2-sha1.cpp` keeps the registers and a circular schedule of sixteen words in `unsigned
long`s, 64 bits wide on the platforms it is built for, and writes the round functions with
fewer operations. Its low words are the standard's words, and only they reach the digest.
-/
namespace Udp2raw.Sha1

open BlockHash WordBytes SecureHash Hashing

attribute [local instance] four_neZero sixteen_neZero

/-- `GET_ULONG_BE`. -/
def getUlongBE (buffer : List UInt8) (place : Nat) : UInt64 :=
  ((buffer.getD place 0).toUInt64 <<< 24) |||
    ((buffer.getD (place + 1) 0).toUInt64 <<< 16) |||
    ((buffer.getD (place + 2) 0).toUInt64 <<< 8) |||
    (buffer.getD (place + 3) 0).toUInt64

/-- `PUT_ULONG_BE`. -/
def putUlongBE (word : UInt64) : List UInt8 :=
  [(word >>> 24).toUInt8, (word >>> 16).toUInt8, (word >>> 8).toUInt8, word.toUInt8]

/-- The macro `S`. -/
def rotate (x : UInt64) (n : Nat) : UInt64 :=
  (x <<< UInt64.ofNat n) ||| ((x &&& 0xFFFFFFFF) >>> UInt64.ofNat (32 - n))

/-- `W`. -/
abbrev Circular := Vector UInt64 16

/-- `t & 0x0F` as an index. -/
def index (t : Nat) : Fin 16 := Fin.ofNat 16 t

/-- The macro `R`: the next word of the schedule replaces the oldest one. -/
def next (W : Circular) (t : Nat) : UInt64 × Circular :=
  let temp := W[index (t - 3)] ^^^ W[index (t - 8)] ^^^ W[index (t - 14)] ^^^ W[index t]
  let word := rotate temp 1
  (word, W.set (index t) word)

/-- The macro `F` of a round. -/
def F (t : Nat) (x y z : UInt64) : UInt64 :=
  if t < 20 then z ^^^ (x &&& (y ^^^ z))
  else if t < 40 then x ^^^ y ^^^ z
  else if t < 60 then (x &&& y) ||| (z &&& (x ||| y))
  else x ^^^ y ^^^ z

/-- The macro `K` of a round. -/
def K (t : Nat) : UInt64 :=
  if t < 20 then 0x5A827999 else if t < 40 then 0x6ED9EBA1
  else if t < 60 then 0x8F1BBCDC else 0xCA62C1D6

/-- The macro `P`. The calls name the registers one place further each time, so the result is
given under the names of the next call. -/
def P (t : Nat) (v : Five UInt64) (x : UInt64) : Five UInt64 :=
  let e := v.e + (rotate v.a 5 + F t v.b v.c v.d + K t + x)
  let b := rotate v.b 30
  ⟨e, v.a, b, v.c, v.d⟩

/-- The first calls of `P` in `sha1_process`. -/
def calls (W : Circular) (v : Five UInt64) : Nat → Five UInt64 × Circular
  | 0 => (v, W)
  | t + 1 =>
    let (v, W) := calls W v t
    let (x, W) := if t < 16 then (W[index t], W) else next W t
    (P t v x, W)

/-- `sha1_process`. -/
def sha1Process (state : Five UInt64) (data : List UInt8) : Five UInt64 :=
  let W : Circular := Vector.ofFn fun place => getUlongBE data (4 * place.val)
  state.add (calls W state 80).1

/-- The bytes that `sha1_finish` writes. -/
def sha1Put (state : Five UInt64) : List UInt8 :=
  putUlongBE state.a ++ putUlongBE state.b ++ putUlongBE state.c ++ putUlongBE state.d ++
    putUlongBE state.e

/-- The length field has eight bytes. -/
theorem lengthBytes_length (low high : UInt32) : (bigEndian high ++ bigEndian low).length = 8 := rfl

/-- The hash functions of `pbkdf2-sha1.cpp`. -/
def sha1Kind : HashKind where
  State := Five UInt64
  start := ⟨0x67452301, 0xEFCDAB89, 0x98BADCFE, 0x10325476, 0xC3D2E1F0⟩
  process := sha1Process
  counted length := length
  counted_small _ _ := rfl
  msglen low high := bigEndian high ++ bigEndian low
  msglen_length := lengthBytes_length
  output := sha1Put
  digestLength := 20
  output_length _ := rfl
  digest_fits := by decide

/-- A context as it is declared, before it is started. -/
def freshContext (buffer : List UInt8) : HashContext sha1Kind.State :=
  ⟨0, 0, sha1Kind.start, buffer⟩

/-- `sha1_starts`. -/
def sha1Starts (ctx : HashContext sha1Kind.State) : HashContext sha1Kind.State :=
  starts sha1Kind ctx

/-- `sha1_update`. -/
def sha1Update (ctx : HashContext sha1Kind.State) (input : List UInt8) :
    HashContext sha1Kind.State :=
  update sha1Kind ctx input

/-- `sha1_finish`. -/
def sha1Finish (ctx : HashContext sha1Kind.State) : List UInt8 × HashContext sha1Kind.State :=
  finish sha1Kind ctx

/-! ### Low words -/

/-- The low word of a loaded word. -/
theorem low_getUlongBE (buffer : List UInt8) (place : Nat) :
    low (getUlongBE buffer (4 * place)) = SecureHash.wordAt buffer place := by
  have last (b : UInt8) : low b.toUInt64 = b.toUInt32 := UInt8.toUInt32_toUInt64 b
  have byte (b : UInt8) (count : Nat) (small : count < 32) :
      low (b.toUInt64 <<< UInt64.ofNat count) = b.toUInt32 <<< UInt32.ofNat count := by
    rw [low_shiftLeft _ _ small, last]
  have top (b : UInt8) : low (b.toUInt64 <<< 24) = b.toUInt32 <<< 24 := byte b 24 (by decide)
  have second (b : UInt8) : low (b.toUInt64 <<< 16) = b.toUInt32 <<< 16 := byte b 16 (by decide)
  have third (b : UInt8) : low (b.toUInt64 <<< 8) = b.toUInt32 <<< 8 := byte b 8 (by decide)
  have turned (w x y z : UInt32) : w ||| x ||| y ||| z = z ||| y ||| x ||| w := by ac_rfl
  rw [getUlongBE, low_or, low_or, low_or, last, top, second, third, SecureHash.wordAt, ofBytes]
  exact turned _ _ _ _

/-- The low word of a rotation. -/
theorem low_rotate (x : UInt64) (n : Nat) (positive : 0 < n) (small : n < 32) :
    low (rotate x n) = rotl n (low x) := by
  rw [rotate, low_or, low_shiftLeft x n small, low_shiftRight x (32 - n) (by omega), rotl]

/-- The low word of a round's function. -/
theorem low_F (t : Nat) (x y z : UInt64) :
    low (F t x y z) = sha1Function t (low x) (low y) (low z) := by
  have first := choose_eq (low x) (low y) (low z)
  have third := majority_eq (low x) (low y) (low z)
  unfold F sha1Function
  split
  · rw [low_xor, low_and, low_xor, first]
  · split
    · rw [low_xor, low_xor, parity]
    · split
      · rw [low_or, low_and, low_and, low_or, third]
      · rw [low_xor, low_xor, parity]

/-- The low word of a round's constant. -/
theorem low_K (t : Nat) : low (K t) = sha1Constant t := by
  unfold K sha1Constant
  split
  · rfl
  · split
    · rfl
    · split <;> rfl

/-- The low words of a call of `P` are a round. -/
theorem map_P (t : Nat) (v : Five UInt64) (x : UInt64) :
    (P t v x).map low = sha1Round t (low x) (v.map low) := by
  have five := low_rotate v.a 5 (by decide) (by decide)
  have thirty := low_rotate v.b 30 (by decide) (by decide)
  have sum : low v.e + (rotl 5 (low v.a) + sha1Function t (low v.b) (low v.c) (low v.d) +
      sha1Constant t + low x) = rotl 5 (low v.a) + sha1Function t (low v.b) (low v.c) (low v.d) +
      low v.e + sha1Constant t + low x := by ac_rfl
  simp only [P, Five.map, sha1Round, low_add, low_F, low_K, five, thirty, sum]

/-- The circular schedule holds the last sixteen words before a round. -/
def Holds (block : Nat → UInt32) (t : Nat) (W : Circular) : Prop :=
  ∀ place, place < max t 16 → max t 16 ≤ place + 16 →
    low W[index place] = sha1Schedule block place

/-- Two places of the last sixteen have different indices. -/
theorem index_ne (left right : Nat) (apart : left ≠ right) (near : left < right + 16)
    (far : right < left + 16) : index left ≠ index right := by
  intro same
  have read := congrArg Fin.val same
  simp only [index, Fin.ofNat] at read
  omega

/-- The next word is the schedule's, and the schedule holds it afterwards. -/
theorem next_holds (block : Nat → UInt32) (t : Nat) (later : 16 ≤ t) (W : Circular)
    (holds : Holds block t W) : low (next W t).1 = sha1Schedule block t ∧
      Holds block (t + 1) (next W t).2 := by
  have before (back : Nat) (inside : 0 < back ∧ back ≤ 16) :
      low W[index (t - back)] = sha1Schedule block (t - back) :=
    holds (t - back) (by omega) (by omega)
  have oldest : index t = index (t - 16) := by
    apply Fin.ext
    simp only [index, Fin.ofNat]
    omega
  have word : low (next W t).1 = sha1Schedule block t := by
    unfold sha1Schedule
    rw [if_neg (by omega), next]
    simp only [low_rotate _ 1 (by decide) (by decide), low_xor, oldest, before 3 (by omega),
      before 8 (by omega), before 14 (by omega), before 16 (by omega)]
  constructor
  · exact word
  · intro place inside recent
    by_cases here : place = t
    · rw [here, ← word]
      simp [next]
    · have apart := index_ne t place (Ne.symm here) (by omega) (by omega)
      have kept : (next W t).2[index place] = W[index place] := by
        have values : (index t).val ≠ (index place).val := fun same => apart (Fin.ext same)
        simp [next, values]
      rw [kept]
      exact holds place (by omega) (by omega)

/-- The calls of `P` are the rounds on low words. -/
theorem calls_rounds (block : Nat → UInt32) (W : Circular) (v : Five UInt64)
    (holds : Holds block 0 W) (t : Nat) :
    (calls W v t).1.map low = sha1Rounds block t (v.map low) ∧
      Holds block t (calls W v t).2 := by
  induction t with
  | zero => exact ⟨rfl, holds⟩
  | succ t ih =>
    by_cases early : t < 16
    · have word : low (calls W v t).2[index t] = sha1Schedule block t :=
        ih.2 t (by omega) (by omega)
      constructor
      · simp only [calls, if_pos early, map_P, word, ih.1, sha1Rounds]
      · intro place inside recent
        simp only [calls, if_pos early]
        exact ih.2 place (by omega) (by omega)
    · have advanced := next_holds block t (by omega) (calls W v t).2 ih.2
      constructor
      · simp only [calls, if_neg early, map_P, advanced.1, ih.1, sha1Rounds]
      · simp only [calls, if_neg early]
        exact advanced.2

/-- Processing a block compresses the low words. -/
theorem map_sha1Process (state : Five UInt64) (data : List UInt8) :
    (sha1Process state data).map low = sha1Compress (state.map low) data := by
  have loaded : Holds (SecureHash.wordAt data) 0
      (Vector.ofFn fun place => getUlongBE data (4 * place.val)) := by
    intro place inside recent
    have small : place < 16 := by omega
    have same : (index place).val = place := Nat.mod_eq_of_lt small
    unfold sha1Schedule
    rw [if_pos small]
    simp only [Fin.getElem_fin, Vector.getElem_ofFn, same, low_getUlongBE]
  have reached := (calls_rounds (SecureHash.wordAt data) _ state loaded 80).1
  have sums (left right : Five UInt64) :
      (left.add right).map low = (left.map low).add (right.map low) := by
    simp only [Five.map, Five.add, low_add]
  rw [sha1Process, sums, reached, sha1Compress]

/-- Only the low word of a register reaches its bytes. -/
theorem putUlongBE_eq (word : UInt64) : putUlongBE word = bigEndian (low word) := by
  have byte (row : Fin 4) : (word >>> UInt64.ofNat (8 * row.val)).toUInt8 =
      bytesOf (low word) row := by
    have wide : ((UInt64.ofNat (8 * row.val)).toBitVec % 64).toNat = 8 * row.val := by
      simp
      omega
    apply UInt8.toBitVec_inj.mp
    apply BitVec.eq_of_getLsbD_eq
    intro bit inside
    rw [bytesOf_bit _ _ _ inside, low_bit _ _ (by omega)]
    simp only [UInt64.toBitVec_toUInt8, UInt64.toBitVec_shiftRight, BitVec.ushiftRight_eq',
      BitVec.getLsbD_setWidth, BitVec.getLsbD_ushiftRight, wide, inside, decide_true,
      Bool.true_and]
  have still : word >>> UInt64.ofNat 0 = word := UInt64.shiftRight_zero
  have last := byte 0
  rw [Fin.val_zero, Nat.mul_zero, still] at last
  rw [putUlongBE, bigEndian, ← byte 3, ← byte 2, ← byte 1, ← last]
  rfl

/-- The digest of the wide registers is the standard's. -/
theorem sha1Kind_digest (message : List UInt8) :
    digest sha1Kind.process sha1Kind.field sha1Kind.start sha1Kind.output message =
      sha1 message := by
  have absorbed (data : List UInt8) := @absorb_map _ _ _ 64 (Five.map low) sha1Compress
    (fun state block _ => map_sha1Process state block) sha1Kind.start data
  have written (state : Five UInt64) : sha1Put state = sha1Output (state.map low) := by
    simp only [sha1Put, putUlongBE_eq, sha1Output, Five.map]
  calc digest sha1Kind.process sha1Kind.field sha1Kind.start sha1Kind.output message
      = sha1Put (absorb sha1Process 64 sha1Kind.start
          (message ++ paddingOf sha1Kind.field message.length)) := rfl
    _ = sha1Output (absorb sha1Compress 64 (Five.map low sha1Kind.start)
          (message ++ paddingOf sha1Kind.field message.length)) := by
        rw [written, absorbed]
    _ = sha1 message := rfl

/-- A context fed a message in pieces finishes with the SHA-1 digest of the whole message. -/
theorem sha1Finish_standard (buffer : List UInt8) (size : buffer.length = 64)
    (pieces : List (List UInt8)) (small : ∀ piece ∈ pieces, piece.length < 2 ^ 31) :
    (sha1Finish (pieces.foldl sha1Update (sha1Starts (freshContext buffer)))).1 =
      sha1 pieces.flatten := by
  have fed := @finish_pieces sha1Kind (freshContext buffer) size pieces
    fun piece member => Nat.lt_trans (small piece member) (by decide)
  exact fed.trans (sha1Kind_digest pieces.flatten)

/-- The same for two pieces. -/
theorem sha1Finish_standard_two :
    (sha1Finish ([[97], [98, 99]].foldl sha1Update
      (sha1Starts (freshContext (List.replicate 64 0))))).1 = sha1 [97, 98, 99] :=
  sha1Finish_standard (List.replicate 64 0) rfl [[97], [98, 99]] (by decide)

end Udp2raw.Sha1
