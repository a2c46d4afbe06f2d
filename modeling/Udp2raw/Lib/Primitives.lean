import Udp2raw.EncryptRoundTrip
import Udp2raw.Data.Refinement
import Udp2raw.Lib.AesModes
import Udp2raw.Lib.KeyDerivation

/-!
# The library under the encryption

The library functions that `encrypt.cpp` calls, put in for the parameters of the message
encryption. The static variables are here what they are in the program: six AES contexts,
each with the `first_time` of its caller. After the first call an entry point is passed no
key and works with the context it holds; the calls behave as if each held the key instead.
-/
namespace Udp2raw

open BlockModes Hashing KeyDerivation SecureHash

attribute [local instance] aesBlock_neZero

/-- The library's functions. -/
def libPrimitives : Primitives where
  md5 data := blockOf 16 (Md5.md5 data)
  sha1Hmac key data := blockOf 20 (Hashing.sha1Hmac (zeroStack Sha1.sha1Kind) key data)
  pbkdf2 password salt := blockOf 32
    (pkcs5Pbkdf2HmacSha256 (zeroStack (Sha256.sha2Kind false)) password salt 10000 32)
  hkdfSha256Expand secret label length := blockOf length
    ((Hashing.hkdfSha256Expand (zeroStack (Sha256.sha2Kind false)) secret.toList
      (textBytes label) length).getD [])
  aesEncrypt key block := Aes.aesCryptEcb (Aes.encryptContext key) .encrypt block
  aesDecrypt key block := Aes.aesCryptEcb (Aes.decryptContext key) .decrypt block
  aesInverse := Aes.contexts_inverse

/-- With these functions a block of zeros makes the way from a new client to a new server, chained
and tagged. -/
theorem myEncrypt_roundtrip_zeros :
    let clientKeys := myInitKeys libPrimitives [1] true
    let serverKeys := myInitKeys libPrimitives [1] false
    let mode : CryptoMode := ⟨.md5, .aes128cbc, false⟩
    ∃ output next, myEncrypt libPrimitives mode clientKeys (fun _ => 0) .initial
        (List.replicate 16 0) = .ok (some output, next) ∧
      (output.length ≤ maxDataLen →
        (myDecrypt libPrimitives mode serverKeys .initial output).1.len = some 16 ∧
          (myDecrypt libPrimitives mode serverKeys .initial output).1.written.take 16 =
            List.replicate 16 0) :=
  myEncrypt_roundtrip libPrimitives ⟨.md5, .aes128cbc, false⟩ [1] true [] [] .initial .initial
    rfl rfl (fun _ => 0) (List.replicate 16 0) (by decide) (by decide)

/-! ### Static contexts -/

/-- The static context of an entry point and the `first_time` of its caller. -/
structure StaticContext where
  /-- `first_time`. -/
  firstTime : Bool
  /-- `ctx`. -/
  ctx : Aes.AesContext

/-- The key that the caller passes on: none after the first time. -/
def StaticContext.pass (context : StaticContext) (key : AesBlock) : Option AesBlock :=
  if context.firstTime then some key else none

/-- The static contexts of the six entry points. -/
structure LibState where
  /-- `AES_ECB_encrypt_buffer`. -/
  ecbEncrypt : StaticContext
  /-- `AES_ECB_decrypt_buffer`. -/
  ecbDecrypt : StaticContext
  /-- `AES_CBC_encrypt_buffer`. -/
  cbcEncrypt : StaticContext
  /-- `AES_CBC_decrypt_buffer`. -/
  cbcDecrypt : StaticContext
  /-- `AES_CFB_encrypt_buffer`. -/
  cfbEncrypt : StaticContext
  /-- `AES_CFB_decrypt_buffer`. -/
  cfbDecrypt : StaticContext

/-- The static contexts when the process starts. -/
def LibState.initial : LibState :=
  let context : StaticContext := ⟨true, Aes.aesInit⟩
  ⟨context, context, context, context, context, context⟩

variable (mode : CryptoMode) (keys : Keys)

/-- `aes_ecb_encrypt` on the first block of a buffer. -/
def libEcbEncrypt (lib : LibState) (data : Bytes) : Bytes × LibState :=
  let key := lib.ecbEncrypt.pass (cipherBlock keys.cipherKeyEncrypt)
  let (block, ctx) := Aes.aesEcbEncryptBuffer lib.ecbEncrypt.ctx (blockOf 16 data) key
  (block.toList ++ data.drop 16, { lib with ecbEncrypt := ⟨false, ctx⟩ })

/-- `aes_ecb_decrypt` on the first block of a buffer. -/
def libEcbDecrypt (lib : LibState) (data : Bytes) : Bytes × LibState :=
  let key := lib.ecbDecrypt.pass (cipherBlock keys.cipherKeyDecrypt)
  let (block, ctx) := Aes.aesEcbDecryptBuffer lib.ecbDecrypt.ctx (blockOf 16 data) key
  (block.toList ++ data.drop 16, { lib with ecbDecrypt := ⟨false, ctx⟩ })

/-- The assertion on the result of `aes_crypt_cbc`. -/
def assertCrypted {α : Type} (result : Option α) : Exec α :=
  match result with
  | some value => .ok value
  | none => .error (.assertion "ret==0")

/-- `cipher_encrypt`. -/
def libCipherEncrypt (junk : Nat → UInt8) (lib : LibState) (key : AesBlock) (data : Bytes) :
    Exec (Option Bytes × LibState) :=
  match mode.cipher with
  | .none => .ok (some data, lib)
  | .xor => .ok (some (cipherXor key data), lib)
  | .aes128cbc => do
    let buf := padding junk data 16
    let (output, ctx) ← assertCrypted (Aes.aesCbcEncryptBuffer lib.cbcEncrypt.ctx buf buf.length
      (lib.cbcEncrypt.pass key) zeroIv)
    .ok (some output, { lib with cbcEncrypt := ⟨false, ctx⟩ })
  | .aes128cfb => do
    assert (16 ≤ data.length) "len >= 16"
    let key := lib.cfbEncrypt.pass key
    let (buf, lib) := if mode.aes128cfbOld then (data, lib) else libEcbEncrypt keys lib data
    let (output, ctx) := Aes.aesCfbEncryptBuffer lib.cfbEncrypt.ctx buf key zeroIv
    .ok (some output, { lib with cfbEncrypt := ⟨false, ctx⟩ })

/-- `cipher_decrypt`. -/
def libCipherDecrypt (lib : LibState) (key : AesBlock) (data : Bytes) :
    Exec (Decrypted × LibState) :=
  match mode.cipher with
  | .none => .ok (⟨some data.length, data⟩, lib)
  | .xor => .ok (⟨some data.length, cipherXor key data⟩, lib)
  | .aes128cbc =>
    if data.length % 16 ≠ 0 then .ok (⟨none, []⟩, lib)
    else do
      let (output, ctx) ← assertCrypted (Aes.aesCbcDecryptBuffer lib.cbcDecrypt.ctx data
        data.length (lib.cbcDecrypt.pass key) zeroIv)
      .ok (⟨dePadding output 16, output⟩, { lib with cbcDecrypt := ⟨false, ctx⟩ })
  | .aes128cfb =>
    if data.length < 16 then .ok (⟨none, []⟩, lib)
    else
      let (output, ctx) := Aes.aesCfbDecryptBuffer lib.cfbDecrypt.ctx data
        (lib.cfbDecrypt.pass key) zeroIv
      let lib := { lib with cfbDecrypt := ⟨false, ctx⟩ }
      let (output, lib) :=
        if mode.aes128cfbOld then (output, lib) else libEcbDecrypt keys lib output
      .ok (⟨some output.length, output⟩, lib)

/-- `encrypt_AE`. -/
def libEncryptAE (junk : Nat → UInt8) (lib : LibState) (data : Bytes) :
    Exec (Option Bytes × LibState) := do
  let (output, lib) ←
    libCipherEncrypt mode keys junk lib (cipherBlock keys.cipherKeyEncrypt) data
  .ok (output.map (authCal libPrimitives mode keys), lib)

/-- `decrypt_AE`. -/
def libDecryptAE (lib : LibState) (data : Bytes) : Exec (Decrypted × LibState) :=
  match authVerify libPrimitives mode keys data with
  | none => .ok (⟨none, []⟩, lib)
  | some len =>
    libCipherDecrypt mode keys lib (cipherBlock keys.cipherKeyDecrypt) (data.take len)

/-- `my_encrypt`. -/
def libEncrypt (junk : Nat → UInt8) (lib : LibState) (data : Bytes) :
    Exec (Option Bytes × LibState) :=
  if maxDataLen < data.length then .ok (none, lib)
  else if mode.isHmacUsed then libEncryptAE mode keys junk lib data
  else libCipherEncrypt mode keys junk lib keys.normalKey (authCal libPrimitives mode keys data)

/-- `my_decrypt`. -/
def libDecrypt (lib : LibState) (data : Bytes) : Exec (Decrypted × LibState) :=
  if maxDataLen < data.length then .ok (⟨none, []⟩, lib)
  else if mode.isHmacUsed then libDecryptAE mode keys lib data
  else do
    let (plain, lib) ← libCipherDecrypt mode keys lib keys.normalKey data
    match plain.len with
    | none => .ok (plain, lib)
    | some len =>
      .ok (⟨authVerify libPrimitives mode keys (plain.written.take len), plain.written⟩, lib)

/-! ### The calls with the model's key caches -/

/-- A static context and a cache agree: both are new, or the context is the schedule of the
cache's key. -/
structure StaticContext.Follows (setkey : AesBlock → Aes.AesContext) (context : StaticContext)
    (cache : KeyCache) : Prop where
  /-- The caller has made its first call, or has not. -/
  firstTime : context.firstTime = cache.firstTime
  /-- The schedule of the cached key. -/
  ctx : cache.firstTime = false → context.ctx = setkey cache.schedule

/-- The context that a call works with holds the key that the model's cache gives. -/
theorem StaticContext.Follows.keyed {setkey : List UInt8 → Nat → Option Aes.AesContext}
    {context : StaticContext} {cache : KeyCache}
    (follows : context.Follows (fun key => Aes.keyed setkey Aes.aesInit (some key)) cache)
    (key : AesBlock) : Aes.keyed setkey context.ctx (context.pass key) =
      Aes.keyed setkey Aes.aesInit (some (cache.use key).1) := by
  rw [StaticContext.pass, KeyCache.use, follows.firstTime]
  cases first : cache.firstTime with
  | true => rfl
  | false => exact follows.ctx first

/-- After the call both hold that key. -/
theorem StaticContext.follows_use (setkey : AesBlock → Aes.AesContext) (cache : KeyCache)
    (key : AesBlock) :
    (⟨false, setkey (cache.use key).1⟩ : StaticContext).Follows setkey (cache.use key).2 := by
  rw [KeyCache.use]
  cases first : cache.firstTime with
  | true => exact ⟨rfl, fun _ => rfl⟩
  | false => exact ⟨first.symm, fun _ => rfl⟩

/-- The static contexts and the model's caches agree. -/
structure LibState.Follows (lib : LibState) (aes : AesState) : Prop where
  /-- The single block encryption. -/
  ecbEncrypt : lib.ecbEncrypt.Follows Aes.encryptContext aes.ecbEncrypt
  /-- The single block decryption. -/
  ecbDecrypt : lib.ecbDecrypt.Follows Aes.decryptContext aes.ecbDecrypt
  /-- The chaining encryption. -/
  cbcEncrypt : lib.cbcEncrypt.Follows Aes.encryptContext aes.cbcEncrypt
  /-- The chaining decryption. -/
  cbcDecrypt : lib.cbcDecrypt.Follows Aes.decryptContext aes.cbcDecrypt
  /-- The feedback encryption. -/
  cfbEncrypt : lib.cfbEncrypt.Follows Aes.encryptContext aes.cfbEncrypt
  /-- The feedback decryption, with the encryption's schedule. -/
  cfbDecrypt : lib.cfbDecrypt.Follows Aes.encryptContext aes.cfbDecrypt

/-- A new process agrees. -/
theorem LibState.initial_follows : LibState.initial.Follows AesState.initial := by
  have new (setkey : AesBlock → Aes.AesContext) :
      (⟨true, Aes.aesInit⟩ : StaticContext).Follows setkey ⟨true, Vector.replicate 16 0⟩ :=
    ⟨rfl, fun impossible => absurd impossible (by decide)⟩
  exact ⟨new _, new _, new _, new _, new _, new _⟩

/-- Equal results, and states that agree. -/
def SameResult {α : Type} (concrete : α × LibState) (abstract : α × AesState) : Prop :=
  concrete.1 = abstract.1 ∧ concrete.2.Follows abstract.2

variable {lib : LibState} {aes : AesState}

/-- The encryption of a first block. -/
theorem libEcbEncrypt_same (follows : lib.Follows aes) (data : Bytes) :
    SameResult (libEcbEncrypt keys lib data) (aesEcbEncrypt libPrimitives keys aes data) := by
  have held := follows.ecbEncrypt.keyed (cipherBlock keys.cipherKeyEncrypt)
  have next := StaticContext.follows_use Aes.encryptContext aes.ecbEncrypt
    (cipherBlock keys.cipherKeyEncrypt)
  simp only [libEcbEncrypt, aesEcbEncrypt, Aes.aesEcbEncryptBuffer, held]
  exact ⟨rfl, { follows with ecbEncrypt := next }⟩

/-- The decryption of a first block. -/
theorem libEcbDecrypt_same (follows : lib.Follows aes) (data : Bytes) :
    SameResult (libEcbDecrypt keys lib data) (aesEcbDecrypt libPrimitives keys aes data) := by
  have held := follows.ecbDecrypt.keyed (cipherBlock keys.cipherKeyDecrypt)
  have next := StaticContext.follows_use Aes.decryptContext aes.ecbDecrypt
    (cipherBlock keys.cipherKeyDecrypt)
  simp only [libEcbDecrypt, aesEcbDecrypt, Aes.aesEcbDecryptBuffer, held]
  exact ⟨rfl, { follows with ecbDecrypt := next }⟩

/-- The cipher's encryption; the padded length passes the library's assertion. -/
theorem libCipherEncrypt_same (follows : lib.Follows aes) (junk : Nat → UInt8) (key : AesBlock)
    (data : Bytes) : Matches id SameResult (libCipherEncrypt mode keys junk lib key data)
      (cipherEncrypt libPrimitives mode keys junk aes key data) := by
  unfold libCipherEncrypt cipherEncrypt
  cases mode.cipher with
  | none => exact Matches.ok ⟨rfl, follows⟩
  | xor => exact Matches.ok ⟨rfl, follows⟩
  | aes128cbc =>
    have held := follows.cbcEncrypt.keyed key
    have next := StaticContext.follows_use Aes.encryptContext aes.cbcEncrypt key
    have whole : (padding junk data 16).length % 16 = 0 := by
      rw [padding_length]
      omega
    simp only [Aes.aesCbcEncryptBuffer_whole _ _ whole, held]
    exact Matches.ok ⟨rfl, { follows with cbcEncrypt := next }⟩
  | aes128cfb =>
    have held := follows.cfbEncrypt.keyed key
    have next := StaticContext.follows_use Aes.encryptContext aes.cfbEncrypt key
    by_cases long : 16 ≤ data.length
    · have passed : assert (decide (16 ≤ data.length)) "len >= 16" = .ok () := by
        simp [assert, long]
      rw [passed]
      by_cases old : mode.aes128cfbOld
      · simp only [bind, Except.bind, old, if_true, Aes.aesCfbEncryptBuffer,
          Aes.aesCryptCfb128_encrypt, held]
        exact Matches.ok ⟨rfl, { follows with cfbEncrypt := next }⟩
      · have heldEcb := follows.ecbEncrypt.keyed (cipherBlock keys.cipherKeyEncrypt)
        have nextEcb := StaticContext.follows_use Aes.encryptContext aes.ecbEncrypt
          (cipherBlock keys.cipherKeyEncrypt)
        simp only [bind, Except.bind, old, Bool.false_eq_true, if_false, libEcbEncrypt,
          aesEcbEncrypt, Aes.aesEcbEncryptBuffer, heldEcb, Aes.aesCfbEncryptBuffer,
          Aes.aesCryptCfb128_encrypt, held]
        exact Matches.ok ⟨rfl, { follows with ecbEncrypt := nextEcb, cfbEncrypt := next }⟩
    · have failed : assert (decide (16 ≤ data.length)) "len >= 16" =
          .error (.assertion "len >= 16") := by
        simp [assert, long]
      rw [failed]
      exact Matches.error _

/-- The cipher's decryption; it never stops the process. -/
theorem libCipherDecrypt_same (follows : lib.Follows aes) (key : AesBlock) (data : Bytes) :
    ∃ result, libCipherDecrypt mode keys lib key data = .ok result ∧
      SameResult result (cipherDecrypt libPrimitives mode keys aes key data) := by
  unfold libCipherDecrypt cipherDecrypt
  cases mode.cipher with
  | none => exact ⟨_, rfl, rfl, follows⟩
  | xor => exact ⟨_, rfl, rfl, follows⟩
  | aes128cbc =>
    have held := follows.cbcDecrypt.keyed key
    have next := StaticContext.follows_use Aes.decryptContext aes.cbcDecrypt key
    by_cases whole : data.length % 16 = 0
    · simp only [ne_eq, whole, not_true_eq_false, if_false,
        Aes.aesCbcDecryptBuffer_whole _ _ whole, held]
      exact ⟨_, rfl, rfl, { follows with cbcDecrypt := next }⟩
    · simp only [ne_eq, whole, not_false_eq_true, if_true]
      exact ⟨_, rfl, rfl, follows⟩
  | aes128cfb =>
    have held := follows.cfbDecrypt.keyed key
    have next := StaticContext.follows_use Aes.encryptContext aes.cfbDecrypt key
    by_cases short : data.length < 16
    · simp only [short, if_true]
      exact ⟨_, rfl, rfl, follows⟩
    · by_cases old : mode.aes128cfbOld
      · simp only [short, if_false, old, if_true, Aes.aesCfbDecryptBuffer,
          Aes.aesCryptCfb128_decrypt, held]
        exact ⟨_, rfl, rfl, { follows with cfbDecrypt := next }⟩
      · have heldEcb := follows.ecbDecrypt.keyed (cipherBlock keys.cipherKeyDecrypt)
        have nextEcb := StaticContext.follows_use Aes.decryptContext aes.ecbDecrypt
          (cipherBlock keys.cipherKeyDecrypt)
        simp only [short, if_false, old, Bool.false_eq_true, libEcbDecrypt, aesEcbDecrypt,
          Aes.aesEcbDecryptBuffer, heldEcb, Aes.aesCfbDecryptBuffer, Aes.aesCryptCfb128_decrypt,
          held]
        exact ⟨_, rfl, rfl, { follows with ecbDecrypt := nextEcb, cfbDecrypt := next }⟩

/-- An encryption call. -/
theorem libEncrypt_same (follows : lib.Follows aes) (junk : Nat → UInt8) (data : Bytes) :
    Matches id SameResult (libEncrypt mode keys junk lib data)
      (myEncrypt libPrimitives mode keys junk aes data) := by
  unfold libEncrypt myEncrypt
  by_cases huge : maxDataLen < data.length
  · simp only [huge, if_true]
    exact Matches.ok ⟨rfl, follows⟩
  · by_cases hmac : mode.isHmacUsed
    · simp only [huge, if_false, hmac, if_true, libEncryptAE, encryptAE]
      apply Matches.bind (libCipherEncrypt_same mode keys follows junk _ data)
      intro value other same
      exact Matches.ok ⟨congrArg (Option.map _) same.1, same.2⟩
    · simp only [huge, if_false, hmac, Bool.false_eq_true]
      exact libCipherEncrypt_same mode keys follows junk _ _

/-- A decryption call. -/
theorem libDecrypt_same (follows : lib.Follows aes) (data : Bytes) :
    ∃ result, libDecrypt mode keys lib data = .ok result ∧
      SameResult result (myDecrypt libPrimitives mode keys aes data) := by
  unfold libDecrypt myDecrypt
  by_cases huge : maxDataLen < data.length
  · simp only [huge, if_true]
    exact ⟨_, rfl, rfl, follows⟩
  · by_cases hmac : mode.isHmacUsed
    · simp only [huge, if_false, hmac, if_true, libDecryptAE, decryptAE]
      cases authVerify libPrimitives mode keys data with
      | none => exact ⟨_, rfl, rfl, follows⟩
      | some len => exact libCipherDecrypt_same mode keys follows _ _
    · obtain ⟨result, ran, same, next⟩ :=
        libCipherDecrypt_same mode keys follows keys.normalKey data
      simp only [huge, if_false, hmac, Bool.false_eq_true, ran, bind, Except.bind, ← same]
      cases result.1.len with
      | none => exact ⟨_, rfl, rfl, next⟩
      | some len => exact ⟨_, rfl, rfl, next⟩

/-! ### Histories of calls -/

/-- What a call of the encryption interface returns. -/
inductive CryptResult where
  /-- The output of `my_encrypt`, or its error. -/
  | sealed (output : Option Bytes)
  /-- The outcome of `my_decrypt`. -/
  | opened (outcome : Decrypted)
  /-- The buffer after a call on its first block. -/
  | buffer (data : Bytes)

/-- A call in the model. -/
def CryptCall.result (prim : Primitives) (aes : AesState) :
    CryptCall → Exec (CryptResult × AesState)
  | .encrypt junk data => (myEncrypt prim mode keys junk aes data).map fun result =>
    (.sealed result.1, result.2)
  | .decrypt data =>
    let result := myDecrypt prim mode keys aes data
    .ok (.opened result.1, result.2)
  | .ecbEncrypt data =>
    let result := aesEcbEncrypt prim keys aes data
    .ok (.buffer result.1, result.2)
  | .ecbDecrypt data =>
    let result := aesEcbDecrypt prim keys aes data
    .ok (.buffer result.1, result.2)

/-- A call with the static contexts. -/
def CryptCall.libResult (lib : LibState) : CryptCall → Exec (CryptResult × LibState)
  | .encrypt junk data => (libEncrypt mode keys junk lib data).map fun result =>
    (.sealed result.1, result.2)
  | .decrypt data => (libDecrypt mode keys lib data).map fun result =>
    (.opened result.1, result.2)
  | .ecbEncrypt data =>
    let result := libEcbEncrypt keys lib data
    .ok (.buffer result.1, result.2)
  | .ecbDecrypt data =>
    let result := libEcbDecrypt keys lib data
    .ok (.buffer result.1, result.2)

/-- One more call of a history; the results so far are kept, the last one first. -/
def recordCall {State : Type} (call : State → CryptCall → Exec (CryptResult × State))
    (past : List CryptResult × State) (next : CryptCall) : Exec (List CryptResult × State) :=
  (call past.2 next).map fun result => (result.1 :: past.1, result.2)

/-- One call. -/
theorem libResult_same (follows : lib.Follows aes) (call : CryptCall) :
    Matches id SameResult (call.libResult mode keys lib)
      (call.result mode keys libPrimitives aes) := by
  cases call with
  | encrypt junk data =>
    apply Matches.map _ _ (libEncrypt_same mode keys follows junk data)
    intro value other same
    exact ⟨congrArg CryptResult.sealed same.1, same.2⟩
  | decrypt data =>
    obtain ⟨result, ran, same, next⟩ := libDecrypt_same mode keys follows data
    simp only [CryptCall.libResult, CryptCall.result, ran, Except.map]
    exact Matches.ok ⟨congrArg CryptResult.opened same, next⟩
  | ecbEncrypt data =>
    have same := libEcbEncrypt_same keys follows data
    exact Matches.ok ⟨congrArg CryptResult.buffer same.1, same.2⟩
  | ecbDecrypt data =>
    have same := libEcbDecrypt_same keys follows data
    exact Matches.ok ⟨congrArg CryptResult.buffer same.1, same.2⟩

/-- Every history of calls from the start of the process returns with the library's static
contexts what it returns in the model: the same results in the same order, or the same stop. -/
theorem libHistory_same (history : List CryptCall) :
    Matches id (fun concrete abstract =>
        concrete.1 = abstract.1 ∧ concrete.2.Follows abstract.2)
      (history.foldlM (recordCall fun lib call => call.libResult mode keys lib)
        ([], LibState.initial))
      (history.foldlM (recordCall fun aes call => call.result mode keys libPrimitives aes)
        ([], AesState.initial)) := by
  apply Matches.foldlM
  · intro past other call same
    apply Matches.map _ _ (libResult_same mode keys same.2 call)
    intro value abstract step
    exact ⟨by rw [step.1, same.1], step.2⟩
  · exact ⟨rfl, LibState.initial_follows⟩

/-! ### Keys -/

/-- The bytes of a block that a string fills. -/
theorem blockOf_whole (data : List UInt8) (width : Nat) (length : data.length = width) :
    (blockOf width data).toList = data := by
  rw [blockOf_toList data (by omega), List.take_of_length_le (by omega)]

/-- The standard's key schedule of a password: the secret that all keys but one expand. -/
def standardSecret (userPasswd : Bytes) : Bytes :=
  KeyDerivation.pbkdf2 (hmac (sha256 false) userPasswd) 32
    (MessageDigest.md5 (textBytes "udp2raw_salt1")) 10000 32

/-- A key expanded from the secret under a label. -/
def standardKey (userPasswd : Bytes) (label : String) (length : Nat) : Bytes :=
  hkdfExpand (hmac (sha256 false) (standardSecret userPasswd)) 32 (textBytes label) length

/-- The digest function of SHA-256. -/
theorem digestOf_sha256 : (Sha256.sha2Kind false).digestOf = sha256 false :=
  (Library.sha2 false).digestOf_standard

/-- The length of its keyed hash. -/
theorem hmacSha256_length (key message : List UInt8) :
    (hmac (sha256 false) key message).length = 32 := by
  rw [← digestOf_sha256]
  exact digestOf_length _

/-- The length of the secret. -/
theorem standardSecret_length (userPasswd : Bytes) : (standardSecret userPasswd).length = 32 := by
  apply take_blocks_length _ 32 (by decide)
  intro number
  exact summed_length _ _ (hmacSha256_length userPasswd) _ (hmacSha256_length userPasswd _) _

/-- The library's MD5. -/
theorem libPrimitives_md5 (data : Bytes) (small : data.length < 2 ^ 32) :
    (libPrimitives.md5 data).toList = MessageDigest.md5 data := by
  have fed := Md5.md5Finish_standard Md5.md5Init rfl [data] (by simpa using small)
  have standard : Md5.md5 data = MessageDigest.md5 data := by
    simpa [Md5.md5] using fed
  have length : (Md5.md5 data).length = 16 := by
    rw [standard]
    rfl
  exact (blockOf_whole _ 16 length).trans standard

/-- The library's derivation of the secret. -/
theorem libPrimitives_pbkdf2 (userPasswd : Bytes) (small : userPasswd.length < 2 ^ 32) :
    (libPrimitives.pbkdf2 userPasswd (MessageDigest.md5 (textBytes "udp2raw_salt1"))).toList =
      standardSecret userPasswd := by
  have smallSalt : (MessageDigest.md5 (textBytes "udp2raw_salt1")).length < 2 ^ 32 := by
    have length : (MessageDigest.md5 (textBytes "udp2raw_salt1")).length = 16 := rfl
    omega
  have derived := derive_pbkdf2 (zeroStack (Sha256.sha2Kind false)) rfl userPasswd
    (MessageDigest.md5 (textBytes "udp2raw_salt1")) 10000 32 small smallSalt
  have standard : pkcs5Pbkdf2HmacSha256 (zeroStack (Sha256.sha2Kind false)) userPasswd
      (MessageDigest.md5 (textBytes "udp2raw_salt1")) 10000 32 = standardSecret userPasswd := by
    rw [pkcs5Pbkdf2HmacSha256, derived, HashKind.prf, digestOf_sha256, standardSecret]
    rfl
  have length := standardSecret_length userPasswd
  rw [← standard] at length
  exact (blockOf_whole _ 32 length).trans standard

/-- The library's expansion of the secret under a label. -/
theorem libPrimitives_expand (userPasswd : Bytes) (secret : Vector UInt8 32)
    (derived : secret.toList = standardSecret userPasswd) (label : String)
    (smallLabel : (textBytes label).length < 2 ^ 32) (length : Nat) (few : length ≤ 32 * 255) :
    (libPrimitives.hkdfSha256Expand secret label length).toList =
      standardKey userPasswd label length := by
  have width : secret.toList.length = 32 := by simp
  have expanded := expand_hkdf (zeroStack (Sha256.sha2Kind false)) rfl secret.toList
    (textBytes label) length (by omega) smallLabel
  have digest : (Sha256.sha2Kind false).digestLength = 32 := rfl
  have inside : ¬ (secret.toList.length < 32 ∨ 255 < blocksFor 32 length) := by
    rw [blocksFor]
    omega
  rw [digest, if_neg inside, HashKind.prf, digestOf_sha256, derived] at expanded
  have whole : (standardKey userPasswd label length).length = length :=
    take_blocks_length _ 32 (by decide) (fun number => hmacSha256_length _ _) length
  have standard : (Hashing.hkdfSha256Expand (zeroStack (Sha256.sha2Kind false)) secret.toList
      (textBytes label) length).getD [] = standardKey userPasswd label length := by
    rw [Hashing.hkdfSha256Expand, derived, expanded, Option.getD_some, standardKey]
  rw [← standard] at whole
  exact (blockOf_whole _ length whole).trans standard

/-- The keys that the library derives from a password are those of the standards, with the labels
of the two directions swapped between the client and the server. -/
theorem myInitKeys_standard (userPasswd : Bytes) (small : userPasswd.length < 2 ^ 31)
    (isClient : Bool) :
    let keys := myInitKeys libPrimitives userPasswd isClient
    let up := fun kind => kind ++ " client-->server"
    let down := fun kind => kind ++ " server-->client"
    let here := if isClient then up else down
    let there := if isClient then down else up
    keys.normalKey.toList = MessageDigest.md5 (userPasswd ++ textBytes "key1") ∧
      keys.hmacKeyEncrypt.toList = standardKey userPasswd (here "hmac_key") 64 ∧
      keys.hmacKeyDecrypt.toList = standardKey userPasswd (there "hmac_key") 64 ∧
      keys.cipherKeyEncrypt.toList = standardKey userPasswd (here "cipher_key") 64 ∧
      keys.cipherKeyDecrypt.toList = standardKey userPasswd (there "cipher_key") 64 ∧
      keys.groXor.toList = standardKey userPasswd "gro" 256 := by
  have salt : (libPrimitives.md5 (textBytes "udp2raw_salt1")).toList =
      MessageDigest.md5 (textBytes "udp2raw_salt1") := libPrimitives_md5 _ (by decide +kernel)
  have secret := libPrimitives_pbkdf2 userPasswd (Nat.lt_trans small (by decide))
  rw [← salt] at secret
  have normal : (libPrimitives.md5 (userPasswd ++ textBytes "key1")).toList =
      MessageDigest.md5 (userPasswd ++ textBytes "key1") := by
    apply libPrimitives_md5
    have four : (textBytes "key1").length = 4 := by decide +kernel
    rw [List.length_append, four]
    omega
  have expand := libPrimitives_expand userPasswd _ secret
  cases isClient with
  | true =>
    exact ⟨normal, expand _ (by decide +kernel) 64 (by decide),
      expand _ (by decide +kernel) 64 (by decide), expand _ (by decide +kernel) 64 (by decide),
      expand _ (by decide +kernel) 64 (by decide),
      expand _ (by decide +kernel) 256 (by decide)⟩
  | false =>
    exact ⟨normal, expand _ (by decide +kernel) 64 (by decide),
      expand _ (by decide +kernel) 64 (by decide), expand _ (by decide +kernel) 64 (by decide),
      expand _ (by decide +kernel) 64 (by decide),
      expand _ (by decide +kernel) 256 (by decide)⟩

/-- The same for a client. -/
theorem myInitKeys_standard_client :
    (myInitKeys libPrimitives [1] true).normalKey.toList =
        MessageDigest.md5 ([1] ++ textBytes "key1") ∧
      (myInitKeys libPrimitives [1] true).hmacKeyEncrypt.toList =
        standardKey [1] "hmac_key client-->server" 64 ∧
      (myInitKeys libPrimitives [1] true).hmacKeyDecrypt.toList =
        standardKey [1] "hmac_key server-->client" 64 ∧
      (myInitKeys libPrimitives [1] true).cipherKeyEncrypt.toList =
        standardKey [1] "cipher_key client-->server" 64 ∧
      (myInitKeys libPrimitives [1] true).cipherKeyDecrypt.toList =
        standardKey [1] "cipher_key server-->client" 64 ∧
      (myInitKeys libPrimitives [1] true).groXor.toList = standardKey [1] "gro" 256 :=
  myInitKeys_standard [1] (by decide) true

end Udp2raw
