import Udp2raw.EncryptRoundTrip
import Udp2raw.Data.CyclicCode

/-!
# The checksum of a message

`crc32h` takes a byte in one step, with eight masked constants in place of eight shifts. It is
the register of the reflected cyclic code with the polynomial `0xEDB88320`, so a damaged message
whose damage lies within 32 consecutive bits never keeps its tag.
-/
namespace Udp2raw

open CyclicCode

/-- `g0`, the polynomial. -/
def crcPoly : BitVec 32 := 0xEDB88320#32

/-- The bits of a byte, the lowest first. -/
def bitsOf (byte : UInt8) : List Bool := (List.range 8).map byte.toBitVec.getLsbD

/-- The bits of a message in the order in which the code takes them. -/
def messageBits (message : Bytes) : List Bool := message.flatMap bitsOf

/-- A mask that repeats a bit. -/
def repeated (bit : Bool) : BitVec 32 := if bit then BitVec.allOnes 32 else 0#32

/-- The constants that the low bits of a register select. -/
def selected (bit : Nat → Bool) : BitVec 32 :=
  (repeated (bit 0) &&& ((crcPoly >>> 6 ^^^ crcPoly) >>> 1)) ^^^
    (repeated (bit 1) &&& (crcPoly >>> 6 ^^^ crcPoly)) ^^^
    (repeated (bit 2) &&& (crcPoly >>> 5)) ^^^ (repeated (bit 3) &&& (crcPoly >>> 4)) ^^^
    (repeated (bit 4) &&& (crcPoly >>> 3)) ^^^ (repeated (bit 5) &&& (crcPoly >>> 2)) ^^^
    (repeated (bit 6) &&& (crcPoly >>> 1)) ^^^ (repeated (bit 7) &&& crcPoly)

/-- The constants are the shifts of a byte. -/
theorem shifts_byte : ∀ b0 b1 b2 b3 b4 b5 b6 b7 : Bool,
    shifts crcPoly 8 (word [b0, b1, b2, b3, b4, b5, b6, b7]) =
      selected fun place => [b0, b1, b2, b3, b4, b5, b6, b7].getD place false := by
  decide +kernel

/-- Eight shifts move the register by a byte and add the constants that this byte selects. -/
theorem shifts_eight (register : BitVec 32) :
    shifts crcPoly 8 register = (register >>> 8) ^^^ selected register.getLsbD := by
  have low (place : Nat) (inside : place < 8) :
      (word ((List.range 8).map register.getLsbD) : BitVec 32).getLsbD place =
        register.getLsbD place := by
    rw [word_bit _ _ (by omega)]
    simp [inside]
  have parts : register =
      (register ^^^ word ((List.range 8).map register.getLsbD)) ^^^
        word ((List.range 8).map register.getLsbD) := by
    rw [BitVec.xor_assoc, BitVec.xor_self, BitVec.xor_zero]
  have moved : shifts crcPoly 8 (register ^^^ word ((List.range 8).map register.getLsbD)) =
      register >>> 8 := by
    rw [shifts_zeros]
    · apply BitVec.eq_of_getLsbD_eq
      intro place inside
      have high := @word_high 32 ((List.range 8).map register.getLsbD) (8 + place)
        (by simp)
      rw [BitVec.getLsbD_ushiftRight, BitVec.getLsbD_ushiftRight, BitVec.getLsbD_xor, high,
        Bool.xor_false]
    · intro place inside
      rw [BitVec.getLsbD_xor, low place inside, Bool.xor_self]
  calc shifts crcPoly 8 register
      = shifts crcPoly 8 (register ^^^ word ((List.range 8).map register.getLsbD)) ^^^
          shifts crcPoly 8 (word ((List.range 8).map register.getLsbD)) := by
        rw [← shifts_xor, ← parts]
    _ = (register >>> 8) ^^^ selected register.getLsbD := by
        rw [moved]
        exact congrArg _ (shifts_byte _ _ _ _ _ _ _ _)

/-- Moved to the sign and back, a bit fills the register. -/
theorem sshiftRight_sign (register : BitVec 32) :
    register.sshiftRight 31 = repeated register.msb := by
  apply BitVec.eq_of_getLsbD_eq
  intro place inside
  have within : ¬ 32 ≤ place := by omega
  have filled : (repeated register.msb).getLsbD place = register.msb := by
    cases register.msb with
    | false => simp [repeated]
    | true =>
      rw [repeated, if_pos rfl, BitVec.getLsbD_allOnes]
      exact decide_eq_true inside
  rw [BitVec.getLsbD_sshiftRight, filled]
  cases place with
  | zero => simp [BitVec.msb_eq_getLsbD_last]
  | succ place =>
    have past : ¬ 31 + (place + 1) < 32 := by omega
    rw [if_neg past]
    simp [within]

/-- A mask of the code repeats the bit that its shift moves to the sign. -/
theorem mask_repeated (crc shift : Int32) (place : Nat) (inside : place < 32)
    (amount : shift.toBitVec.smod 32#32 = BitVec.ofNat 32 (31 - place)) :
    (((crc <<< shift) >>> 31).toUInt32).toBitVec = repeated (crc.toBitVec.getLsbD place) := by
  have right : (31 : Int32).toBitVec.smod 32#32 = 31#32 := by decide
  have whole : (31 - place) % 2 ^ 32 = 31 - place := Nat.mod_eq_of_lt (by omega)
  have sign : (crc.toBitVec <<< (31 - place)).msb = crc.toBitVec.getLsbD place := by
    have back : 31 - (31 - place) = place := by omega
    have within : ¬ 31 < 31 - place := by omega
    rw [BitVec.msb_eq_getLsbD_last, BitVec.getLsbD_shiftLeft]
    simp [within, back]
  rw [← sign, ← sshiftRight_sign]
  show (crc.toBitVec <<< (shift.toBitVec.smod 32#32)).sshiftRight'
    ((31 : Int32).toBitVec.smod 32#32) = _
  rw [amount, right, BitVec.shiftLeft_eq', BitVec.toNat_ofNat, whole, BitVec.sshiftRight_eq']
  rfl

/-- The bits of a byte are its word. -/
theorem word_bitsOf (byte : UInt8) : word (bitsOf byte) = byte.toBitVec.setWidth 32 := by
  apply BitVec.eq_of_getLsbD_eq
  intro place inside
  rw [word_bit _ _ inside, BitVec.getLsbD_setWidth]
  by_cases low : place < 8
  · simp [bitsOf, low, inside]
  · have behind : (bitsOf byte).length ≤ place := by
      simp only [bitsOf, List.length_map, List.length_range]
      omega
    have high : byte.toBitVec.getLsbD place = false := BitVec.getLsbD_of_ge _ _ (by omega)
    rw [List.getElem?_eq_none behind, high, Option.getD_none, Bool.and_false]

/-- A step of the code takes the bits of a byte. -/
theorem crc32Step_feed (crc : Int32) (byte : UInt8) :
    (crc32Step crc byte).toBitVec = feed crcPoly crc.toBitVec (bitsOf byte) := by
  have added : (crc ^^^ byte.toUInt32.toInt32).toBitVec = crc.toBitVec ^^^ word (bitsOf byte) := by
    rw [word_bitsOf]
    rfl
  have eight : (bitsOf byte).length = 8 := by simp [bitsOf]
  have mask (place : Nat) (shift : Int32) (inside : place < 32)
      (amount : shift.toBitVec.smod 32#32 = BitVec.ofNat 32 (31 - place)) :=
    (mask_repeated (crc ^^^ byte.toUInt32.toInt32) shift place inside amount).symm
  rw [feed_word _ _ _ (by omega), eight, shifts_eight, ← added, selected,
    mask 0 31 (by decide) (by decide), mask 1 30 (by decide) (by decide),
    mask 2 29 (by decide) (by decide), mask 3 28 (by decide) (by decide),
    mask 4 27 (by decide) (by decide), mask 5 26 (by decide) (by decide),
    mask 6 25 (by decide) (by decide), mask 7 24 (by decide) (by decide)]
  rfl

/-- `crc32h` is the register of the cyclic code after the message, inverted. -/
theorem crc32h_feed (message : Bytes) :
    (crc32h message).toBitVec =
      ~~~ feed crcPoly (BitVec.allOnes 32) (messageBits message) := by
  have steps (message : Bytes) : ∀ crc : Int32, (message.foldl crc32Step crc).toBitVec =
      feed crcPoly crc.toBitVec (messageBits message) := by
    induction message with
    | nil => exact fun crc => rfl
    | cons byte message ih =>
      intro crc
      rw [List.foldl_cons, ih, crc32Step_feed]
      simp only [messageBits, List.flatMap_cons, feed, List.foldl_append]
  have start : (0xFFFFFFFF : UInt32).toInt32.toBitVec = BitVec.allOnes 32 := by decide
  have all := steps message (0xFFFFFFFF : UInt32).toInt32
  rw [start] at all
  rw [← all]
  rfl

/-- A burst of up to 32 bits changes the checksum. -/
theorem crc32h_burst (message other : Bytes) (before burst changed after : List Bool)
    (sent : messageBits message = before ++ burst ++ after)
    (received : messageBits other = before ++ changed ++ after)
    (length : burst.length = changed.length) (fits : burst.length ≤ 32)
    (differ : burst ≠ changed) : crc32h message ≠ crc32h other := by
  intro same
  have registers := congrArg UInt32.toBitVec same
  rw [crc32h_feed, crc32h_feed, sent, received] at registers
  have full : crcPoly.msb = true := by decide
  exact burst_detected crcPoly (BitVec.allOnes 32) full before burst changed after length fits
    differ (BitVec.not_inj.mp registers)

/-- With the tag of the message that was sent, `auth_verify` refuses another one if the checksums
differ. -/
theorem authVerify_refuses (prim : Primitives) {mode : CryptoMode} (crc32 : mode.auth = .crc32)
    (keys : Keys) (hmacKey : Vector UInt8 64) {message other : Bytes}
    (checksums : crc32h message ≠ crc32h other) :
    authVerify prim mode keys (other ++ authTag prim .crc32 hmacKey message) = none := by
  have tagged : (authTag prim .crc32 hmacKey message).length = 4 := BigEndian.encode_length _ _
  have total : (other ++ authTag prim .crc32 hmacKey message).length - 4 = other.length := by
    rw [List.length_append, tagged]
    omega
  have room : ¬ (other ++ authTag prim .crc32 hmacKey message).length < 4 := by
    rw [List.length_append, tagged]
    omega
  rw [authVerify, crc32, tagLen, if_neg room]
  simp only [total, List.take_left, List.drop_left]
  apply if_neg
  intro same
  apply checksums
  have values := congrArg BigEndian.decode same
  have inside (data : Bytes) : (crc32h data).toNat < 256 ^ 4 := (crc32h data).toNat_lt
  simp only [authTag, BigEndian.decode_encode_of_lt (inside _)] at values
  exact (UInt32.toNat_inj.mp values).symm

/-- `crc32h` is the inverted register of the reflected code after the bits of the message, and
`auth_verify` refuses a message that was damaged within 32 consecutive bits, with the tag of the
message that was sent. -/
theorem authVerify_burst (prim : Primitives) (mode : CryptoMode) (keys : Keys)
    (hmacKey : Vector UInt8 64) (message other : Bytes) :
    (crc32h message).toBitVec = ~~~ feed crcPoly (BitVec.allOnes 32) (messageBits message) ∧
      (mode.auth = .crc32 → ∀ before burst changed after : List Bool,
        messageBits message = before ++ burst ++ after →
        messageBits other = before ++ changed ++ after →
        burst.length = changed.length → burst.length ≤ 32 → burst ≠ changed →
        authVerify prim mode keys (other ++ authTag prim .crc32 hmacKey message) = none) := by
  refine ⟨crc32h_feed message, ?_⟩
  intro crc32 before burst changed after sent received length fits differ
  exact authVerify_refuses prim crc32 keys hmacKey
    (crc32h_burst message other before burst changed after sent received length fits differ)

/-- The same for the second byte of three. -/
theorem authVerify_burst_three :
    (crc32h [1, 2, 3]).toBitVec = ~~~ feed crcPoly (BitVec.allOnes 32) (messageBits [1, 2, 3]) ∧
      authVerify xorPrimitives ⟨.crc32, .none, false⟩ (myInitKeys xorPrimitives [1] false)
        ([1, 3, 3] ++ authTag xorPrimitives .crc32 (Vector.replicate 64 0) [1, 2, 3]) = none := by
  obtain ⟨register, refuses⟩ := authVerify_burst xorPrimitives ⟨.crc32, .none, false⟩
    (myInitKeys xorPrimitives [1] false) (Vector.replicate 64 0) [1, 2, 3] [1, 3, 3]
  exact ⟨register, refuses rfl (bitsOf 1) (bitsOf 2) (bitsOf 3) (bitsOf 3) (by decide) (by decide)
    (by decide) (by decide) (by decide)⟩

end Udp2raw
