import Udp2raw.Lib.AesSchedule

/-!
# AES blocks and modes of operation

Under every key the block function and its decryption are inverse to each other. The loops
of `aes_crypt_cbc` and `aes_crypt_cfb128` are the two modes over that block function, and
the entry points keep the schedule of the last key they were given.
-/
namespace Udp2raw.Aes

open BlockModes WordBytes RoundCipher Rijndael

attribute [local instance] four_neZero sixteen_neZero

/-- The three key sizes in bits. -/
def ValidKeysize (keysize : Nat) : Prop := keysize = 128 ∨ keysize = 192 ∨ keysize = 256

/-- The number of rounds is even. -/
theorem roundsOf_even {keysize : Nat} (size : ValidKeysize keysize) :
    ∃ pairs, roundsOf keysize = 2 * pairs + 2 := by
  rcases size with rfl | rfl | rfl
  · exact ⟨4, rfl⟩
  · exact ⟨5, rfl⟩
  · exact ⟨6, rfl⟩

/-- The decryption with the inverted context undoes the encryption, and the other way round. -/
theorem aesCryptEcb_inverse (ctx : AesContext) (pairs : Nat) (even : ctx.nr = 2 * pairs + 2)
    (block : AesBuffer) :
    aesCryptEcb (invertedContext ctx) .decrypt (aesCryptEcb ctx .encrypt block) = block ∧
      aesCryptEcb ctx .encrypt (aesCryptEcb (invertedContext ctx) .decrypt block) = block := by
  have count : ctx.nr - 1 + 1 = ctx.nr := by omega
  have decrypts (input : AesBuffer) :
      squareOf (aesCryptEcb (invertedContext ctx) .decrypt input) =
        (layers sbox).inverse.encrypt (ctx.nr - 1)
          ((layers sbox).inverseKeys (ctx.nr - 1) (roundKey ctx.columns)) (squareOf input) := by
    have plain := aesCryptEcb_decrypt (invertedContext ctx) pairs even input
    have keys := Layers.encrypt_congr (layers sbox).inverse (ctx.nr - 1)
      (roundKey (invertedContext ctx).columns)
      ((layers sbox).inverseKeys (ctx.nr - 1) (roundKey ctx.columns)) (squareOf input)
      fun round within => invertedContext_keys ctx (by omega) round (by omega)
    exact plain.trans keys
  constructor
  · apply squareOf_injective
    rw [decrypts, aesCryptEcb_encrypt ctx pairs even]
    exact Layers.inverse_encrypt (layers sbox) (ctx.nr - 1) (roundKey ctx.columns) (squareOf block)
  · apply squareOf_injective
    rw [aesCryptEcb_encrypt ctx pairs even, decrypts]
    exact Layers.encrypt_inverse (layers sbox) (ctx.nr - 1) (roundKey ctx.columns) (squareOf block)

/-- Encrypting a block under a key is the standard's cipher: the library's table substitutes as
`SubBytes` does, its schedule is the key's expansion, and its table rounds are the cipher's rounds
with that expansion. -/
theorem aesCryptEcb_standard (key : List UInt8) (keysize : Nat) (size : ValidKeysize keysize) :
    (∀ byte, Substitutes byte (sbox byte)) ∧ ∃ ctx, aesSetkeyEnc key keysize = some ctx ∧
      Expands sbox (keysize / 32) (keyColumns key) (4 * (roundsOf keysize + 1)) ctx.columns ∧
      ∀ block, squareOf (aesCryptEcb ctx .encrypt block) =
        (layers sbox).encrypt (roundsOf keysize - 1) (roundKey ctx.columns) (squareOf block) := by
  obtain ⟨ctx, encrypts, rounds, expands⟩ := aesSetkeyEnc_expands key keysize size
  obtain ⟨pairs, even⟩ := roundsOf_even size
  rw [← rounds] at even ⊢
  exact ⟨fsb_substitutes, ctx, encrypts, expands, aesCryptEcb_encrypt ctx pairs even⟩

/-- The same for a 192-bit key. -/
theorem aesCryptEcb_standard_192 :
    (∀ byte, Substitutes byte (sbox byte)) ∧
      ∃ ctx, aesSetkeyEnc (List.replicate 24 7) 192 = some ctx ∧
      Expands sbox 6 (keyColumns (List.replicate 24 7)) 52 ctx.columns ∧
      ∀ block, squareOf (aesCryptEcb ctx .encrypt block) =
        (layers sbox).encrypt 11 (roundKey ctx.columns) (squareOf block) :=
  aesCryptEcb_standard (List.replicate 24 7) 192 (Or.inr (Or.inl rfl))

/-- Under every key of a valid size both schedules exist and the two directions of the block
function are inverse to each other. -/
theorem aesCryptEcb_bijective (key : List UInt8) (keysize : Nat) (size : ValidKeysize keysize) :
    ∃ enc dec, aesSetkeyEnc key keysize = some enc ∧ aesSetkeyDec key keysize = some dec ∧
      ∀ block, aesCryptEcb dec .decrypt (aesCryptEcb enc .encrypt block) = block ∧
        aesCryptEcb enc .encrypt (aesCryptEcb dec .decrypt block) = block := by
  obtain ⟨ctx, encrypts, rounds, _⟩ := aesSetkeyEnc_expands key keysize size
  obtain ⟨pairs, even⟩ := roundsOf_even size
  have decrypts : aesSetkeyDec key keysize = some (invertedContext ctx) := by
    rw [aesSetkeyDec, encrypts]
    rfl
  exact ⟨ctx, invertedContext ctx, encrypts, decrypts,
    aesCryptEcb_inverse ctx pairs (rounds.trans even)⟩

/-- The same for a 256-bit key. -/
theorem aesCryptEcb_bijective_256 :
    ∃ enc dec, aesSetkeyEnc (List.replicate 32 7) 256 = some enc ∧
      aesSetkeyDec (List.replicate 32 7) 256 = some dec ∧
      ∀ block, aesCryptEcb dec .decrypt (aesCryptEcb enc .encrypt block) = block ∧
        aesCryptEcb enc .encrypt (aesCryptEcb dec .decrypt block) = block :=
  aesCryptEcb_bijective (List.replicate 32 7) 256 (Or.inr (Or.inr rfl))

/-! ### Modes -/

/-- The encrypting loop is the chaining mode over whole blocks. -/
theorem cbcEncryptLoop_eq (ctx : AesContext) (count : Nat) (iv : AesBuffer) (input : List UInt8) :
    (cbcEncryptLoop ctx (16 * count) iv input).1 =
      cbcEncrypt (aesCryptEcb ctx .encrypt) count iv input := by
  induction count generalizing iv input with
  | zero =>
    unfold cbcEncryptLoop
    simp [cbcEncrypt]
  | succ count ih =>
    have rest : 16 * (count + 1) - 16 = 16 * count := by omega
    unfold cbcEncryptLoop
    rw [if_pos (by omega), cbcEncrypt, rest]
    simp only [ih]

/-- The decrypting loop likewise. -/
theorem cbcDecryptLoop_eq (ctx : AesContext) (count : Nat) (iv : AesBuffer) (input : List UInt8) :
    (cbcDecryptLoop ctx (16 * count) iv input).1 =
      cbcDecrypt (aesCryptEcb ctx .decrypt) count iv input := by
  induction count generalizing iv input with
  | zero =>
    unfold cbcDecryptLoop
    simp [cbcDecrypt]
  | succ count ih =>
    have rest : 16 * (count + 1) - 16 = 16 * count := by omega
    unfold cbcDecryptLoop
    rw [if_pos (by omega), cbcDecrypt, rest]
    simp only [ih]

/-- The counter of the feedback register goes round its sixteen places. -/
theorem nextN_eq (n : Fin 16) : nextN n = nextPlace n := by
  revert n
  decide

/-- The encrypting loop is the feedback mode. -/
theorem aesCryptCfb128_encrypt (ctx : AesContext) (state : Feedback) (input : List UInt8) :
    (aesCryptCfb128 ctx .encrypt state input).1 =
      cfbEncrypt (aesCryptEcb ctx .encrypt) state.iv state.n input := by
  induction input generalizing state with
  | nil => rfl
  | cons byte input ih =>
    simp only [aesCryptCfb128, cfbEncrypt, ih, nextN_eq]
    rfl

/-- The decrypting loop likewise. -/
theorem aesCryptCfb128_decrypt (ctx : AesContext) (state : Feedback) (input : List UInt8) :
    (aesCryptCfb128 ctx .decrypt state input).1 =
      cfbDecrypt (aesCryptEcb ctx .encrypt) state.iv state.n input := by
  induction input generalizing state with
  | nil => rfl
  | cons byte input ih =>
    simp only [aesCryptCfb128, cfbDecrypt, ih, nextN_eq]
    rfl

/-- A feedback call continues where the call before left the register. -/
theorem aesCryptCfb128_append (ctx : AesContext) (mode : AesMode) (state : Feedback)
    (front back : List UInt8) : aesCryptCfb128 ctx mode state (front ++ back) =
      ((aesCryptCfb128 ctx mode state front).1 ++
        (aesCryptCfb128 ctx mode (aesCryptCfb128 ctx mode state front).2 back).1,
      (aesCryptCfb128 ctx mode (aesCryptCfb128 ctx mode state front).2 back).2) := by
  induction front generalizing state with
  | nil => rfl
  | cons byte front ih =>
    cases mode with
    | encrypt =>
      simp only [List.cons_append, aesCryptCfb128, ih]
    | decrypt =>
      simp only [List.cons_append, aesCryptCfb128, ih]

/-- A sequence of feedback calls: all that they output, and the register at the end. -/
def cfbPieces (ctx : AesContext) (mode : AesMode) (state : Feedback) :
    List (List UInt8) → List UInt8 × Feedback
  | [] => ([], state)
  | piece :: pieces =>
    let first := aesCryptCfb128 ctx mode state piece
    let rest := cfbPieces ctx mode first.2 pieces
    (first.1 ++ rest.1, rest.2)

/-- The calls do what one call on all the data does. -/
theorem cfbPieces_flatten (ctx : AesContext) (mode : AesMode) (state : Feedback)
    (pieces : List (List UInt8)) :
    cfbPieces ctx mode state pieces = aesCryptCfb128 ctx mode state pieces.flatten := by
  induction pieces generalizing state with
  | nil => rfl
  | cons piece pieces ih =>
    rw [List.flatten_cons, aesCryptCfb128_append]
    simp only [cfbPieces, ih]

/-- What was encrypted in pieces is decrypted in any other pieces, from the same register. -/
theorem cfbPieces_roundtrip (ctx : AesContext) (state : Feedback)
    (pieces others : List (List UInt8))
    (same : others.flatten = (cfbPieces ctx .encrypt state pieces).1) :
    (cfbPieces ctx .decrypt state others).1 = pieces.flatten := by
  rw [cfbPieces_flatten, same, cfbPieces_flatten, aesCryptCfb128_encrypt, aesCryptCfb128_decrypt,
    cfb_roundtrip]

/-- The context of an encryption under a sixteen-byte key. -/
def encryptContext (key : AesBuffer) : AesContext := keyed aesSetkeyEnc aesInit (some key)

/-- The context of a decryption under a sixteen-byte key. -/
def decryptContext (key : AesBuffer) : AesContext := keyed aesSetkeyDec aesInit (some key)

/-- The same for two calls of more than a block under a key, decrypted in another two. -/
theorem cfbPieces_roundtrip_two :
    let ctx := encryptContext (Vector.ofFn fun place => place.val.toUInt8)
    let start : Feedback := ⟨Vector.replicate 16 0, 5⟩
    let pieces := [List.replicate 20 1, List.replicate 33 2]
    let output := (cfbPieces ctx .encrypt start pieces).1
    (cfbPieces ctx .decrypt start [output.take 35, output.drop 35]).1 =
      List.replicate 20 1 ++ List.replicate 33 2 := by
  intro ctx start pieces output
  have same : [output.take 35, output.drop 35].flatten = output := by simp
  exact cfbPieces_roundtrip ctx start pieces [output.take 35, output.drop 35] same

/-! ### Entry points -/

/-- Under one key the two contexts are inverse. -/
theorem contexts_inverse (key block : AesBuffer) :
    aesCryptEcb (decryptContext key) .decrypt (aesCryptEcb (encryptContext key) .encrypt block) =
      block := by
  have encrypts : aesSetkeyEnc key.toList 128 = some (encryptContext key) := rfl
  have decrypts : decryptContext key = invertedContext (encryptContext key) := rfl
  rw [decrypts]
  exact (aesCryptEcb_inverse (encryptContext key) 4 rfl block).1

/-- `AES_CBC_encrypt_buffer` on whole blocks is the chaining mode under the held key. -/
theorem aesCbcEncryptBuffer_whole (ctx : AesContext) (data : List UInt8)
    (whole : data.length % 16 = 0) (key : Option AesBuffer) (iv : AesBuffer) :
    aesCbcEncryptBuffer ctx data data.length key iv =
      some (cbcEncrypt (aesCryptEcb (keyed aesSetkeyEnc ctx key) .encrypt) (data.length / 16) iv
        data, keyed aesSetkeyEnc ctx key) := by
  have blocks : data.length = 16 * (data.length / 16) := by omega
  have divides : ¬ 16 * (data.length / 16) % 16 ≠ 0 := by omega
  simp only [aesCbcEncryptBuffer]
  rw [blocks, aesCryptCbc, if_neg divides, Option.map_some, cbcEncryptLoop_eq, ← blocks]

/-- `AES_CBC_decrypt_buffer` likewise. -/
theorem aesCbcDecryptBuffer_whole (ctx : AesContext) (data : List UInt8)
    (whole : data.length % 16 = 0) (key : Option AesBuffer) (iv : AesBuffer) :
    aesCbcDecryptBuffer ctx data data.length key iv =
      some (cbcDecrypt (aesCryptEcb (keyed aesSetkeyDec ctx key) .decrypt) (data.length / 16) iv
        data, keyed aesSetkeyDec ctx key) := by
  have blocks : data.length = 16 * (data.length / 16) := by omega
  have divides : ¬ 16 * (data.length / 16) % 16 ≠ 0 := by omega
  simp only [aesCbcDecryptBuffer]
  rw [blocks, aesCryptCbc, if_neg divides, Option.map_some, cbcDecryptLoop_eq, ← blocks]

/-- `AES_CBC_decrypt_buffer` undoes `AES_CBC_encrypt_buffer` for every number of whole blocks,
whatever keys the entry points held before. -/
theorem aesCbcBuffers_roundtrip (held other : AesContext) (key iv : AesBuffer)
    (data : List UInt8) (whole : data.length % 16 = 0) :
    ∃ sealed, aesCbcEncryptBuffer held data data.length (some key) iv =
        some (sealed, encryptContext key) ∧
      sealed.length = data.length ∧
      aesCbcDecryptBuffer other sealed sealed.length (some key) iv =
        some (data, decryptContext key) := by
  have count : data.length = data.length / 16 * 16 := by omega
  have sealedLength := cbcEncrypt_length (aesCryptEcb (encryptContext key) .encrypt)
    (data.length / 16) iv data
  have sealedCount : data.length / 16 * 16 / 16 = data.length / 16 := by omega
  have back := cbc_roundtrip (aesCryptEcb (encryptContext key) .encrypt)
    (aesCryptEcb (decryptContext key) .decrypt) (contexts_inverse key) (data.length / 16) iv data
    count
  refine ⟨cbcEncrypt (aesCryptEcb (encryptContext key) .encrypt) (data.length / 16) iv data,
    aesCbcEncryptBuffer_whole held data whole (some key) iv, by omega, ?_⟩
  have decrypted := aesCbcDecryptBuffer_whole other
    (cbcEncrypt (aesCryptEcb (encryptContext key) .encrypt) (data.length / 16) iv data)
    (by omega) (some key) iv
  rw [decrypted, sealedLength, sealedCount]
  exact congrArg (fun plain => some (plain, decryptContext key)) back

/-- The same for two blocks. -/
theorem aesCbcBuffers_roundtrip_two :
    ∃ sealed, aesCbcEncryptBuffer aesInit (List.replicate 32 1) 32 (some (Vector.replicate 16 7))
        (Vector.replicate 16 0) = some (sealed, encryptContext (Vector.replicate 16 7)) ∧
      sealed.length = 32 ∧
      aesCbcDecryptBuffer aesInit sealed sealed.length (some (Vector.replicate 16 7))
        (Vector.replicate 16 0) =
          some (List.replicate 32 1, decryptContext (Vector.replicate 16 7)) :=
  aesCbcBuffers_roundtrip aesInit aesInit (Vector.replicate 16 7) (Vector.replicate 16 0)
    (List.replicate 32 1) (by decide)

/-- `AES_CFB_decrypt_buffer` undoes `AES_CFB_encrypt_buffer` for every length. -/
theorem aesCfbBuffers_roundtrip (held other : AesContext) (key iv : AesBuffer)
    (data : List UInt8) : (aesCfbDecryptBuffer other (aesCfbEncryptBuffer held data (some key) iv).1
      (some key) iv).1 = data := by
  simp only [aesCfbEncryptBuffer, aesCfbDecryptBuffer, keyed, aesCryptCfb128_encrypt,
    aesCryptCfb128_decrypt, cfb_roundtrip]

end Udp2raw.Aes
