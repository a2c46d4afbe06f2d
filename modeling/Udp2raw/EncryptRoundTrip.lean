import Udp2raw.Encrypt
import Mathlib.Tactic.Common

/-!
# Encryption and decryption are inverse between peers

The static key schedules are invisible: whatever calls came before, each entry point works
with the one key its caller always passes (`AesState.Holds`). So the stateful functions are
equal to pure ones, for which the round trip is a statement about two sets of keys whose
directions match (`Peers`), mode by mode.
-/
namespace Udp2raw

open BlockModes

attribute [local instance] aesBlock_neZero

/-! ### The static schedules are invisible -/

/-- The cache has no schedule yet, or the schedule of this key. -/
def KeyCache.Holds (cache : KeyCache) (key : AesBlock) : Prop :=
  cache.firstTime = false → cache.schedule = key

/-- A cache for a key works with that key. -/
theorem KeyCache.use_key {cache : KeyCache} {key : AesBlock} (holds : cache.Holds key) :
    (cache.use key).1 = key := by
  unfold KeyCache.use
  split
  · rfl
  · rename_i later
    exact holds (by simpa using later)

/-- A cache for a key remains one when it is used. -/
theorem KeyCache.use_holds {cache : KeyCache} {key : AesBlock} (holds : cache.Holds key) :
    (cache.use key).2.Holds key := by
  unfold KeyCache.use
  split
  · exact fun _ => rfl
  · exact holds

/-- The key that `my_encrypt` passes to the cipher. -/
def CryptoMode.encryptKey (mode : CryptoMode) (keys : Keys) : AesBlock :=
  if mode.isHmacUsed then cipherBlock keys.cipherKeyEncrypt else keys.normalKey

/-- The key that `my_decrypt` passes to the cipher. -/
def CryptoMode.decryptKey (mode : CryptoMode) (keys : Keys) : AesBlock :=
  if mode.isHmacUsed then cipherBlock keys.cipherKeyDecrypt else keys.normalKey

/-- Every static schedule belongs to the key its caller passes in this mode. -/
structure AesState.Holds (mode : CryptoMode) (keys : Keys) (aes : AesState) : Prop where
  /-- The single block encryption. -/
  ecbEncrypt : aes.ecbEncrypt.Holds (cipherBlock keys.cipherKeyEncrypt)
  /-- The single block decryption. -/
  ecbDecrypt : aes.ecbDecrypt.Holds (cipherBlock keys.cipherKeyDecrypt)
  /-- The chaining encryption. -/
  cbcEncrypt : aes.cbcEncrypt.Holds (mode.encryptKey keys)
  /-- The chaining decryption. -/
  cbcDecrypt : aes.cbcDecrypt.Holds (mode.decryptKey keys)
  /-- The feedback encryption. -/
  cfbEncrypt : aes.cfbEncrypt.Holds (mode.encryptKey keys)
  /-- The feedback decryption. -/
  cfbDecrypt : aes.cfbDecrypt.Holds (mode.decryptKey keys)

/-- The schedules of a new process belong to every key. -/
theorem AesState.initial_holds (mode : CryptoMode) (keys : Keys) :
    AesState.initial.Holds mode keys := by
  constructor <;> exact fun impossible => nomatch impossible

/-- `aes_ecb_encrypt` without its static schedule. -/
def pureEcbEncrypt (prim : Primitives) (keys : Keys) (data : Bytes) : Bytes :=
  (prim.aesEncrypt (cipherBlock keys.cipherKeyEncrypt) (blockOf 16 data)).toList ++ data.drop 16

/-- `aes_ecb_decrypt` without its static schedule. -/
def pureEcbDecrypt (prim : Primitives) (keys : Keys) (data : Bytes) : Bytes :=
  (prim.aesDecrypt (cipherBlock keys.cipherKeyDecrypt) (blockOf 16 data)).toList ++ data.drop 16

/-- `cipher_encrypt` without the static schedules. -/
def pureCipherEncrypt (prim : Primitives) (mode : CryptoMode) (keys : Keys) (junk : Nat → UInt8)
    (key : AesBlock) (data : Bytes) : Bytes :=
  match mode.cipher with
  | .none => data
  | .xor => cipherXor key data
  | .aes128cbc =>
    let buf := padding junk data 16
    BlockModes.cbcEncrypt (prim.aesEncrypt key) (buf.length / 16) zeroIv buf
  | .aes128cfb =>
    BlockModes.cfbEncrypt (prim.aesEncrypt key) zeroIv 0
      (if mode.aes128cfbOld then data else pureEcbEncrypt prim keys data)

/-- `cipher_decrypt` without the static schedules. -/
def pureCipherDecrypt (prim : Primitives) (mode : CryptoMode) (keys : Keys) (key : AesBlock)
    (data : Bytes) : Decrypted :=
  match mode.cipher with
  | .none => ⟨some data.length, data⟩
  | .xor => ⟨some data.length, cipherXor key data⟩
  | .aes128cbc =>
    if data.length % 16 ≠ 0 then ⟨none, []⟩
    else
      let output := BlockModes.cbcDecrypt (prim.aesDecrypt key) (data.length / 16) zeroIv data
      ⟨dePadding output 16, output⟩
  | .aes128cfb =>
    if data.length < 16 then ⟨none, []⟩
    else
      let output := BlockModes.cfbDecrypt (prim.aesEncrypt key) zeroIv 0 data
      let output := if mode.aes128cfbOld then output else pureEcbDecrypt prim keys output
      ⟨some output.length, output⟩

/-- `my_encrypt` without the static schedules. -/
def pureEncrypt (prim : Primitives) (mode : CryptoMode) (keys : Keys) (junk : Nat → UInt8)
    (data : Bytes) : Option Bytes :=
  if maxDataLen < data.length then none
  else if mode.isHmacUsed then
    some (authCal prim mode keys
      (pureCipherEncrypt prim mode keys junk (mode.encryptKey keys) data))
  else
    some (pureCipherEncrypt prim mode keys junk (mode.encryptKey keys)
      (authCal prim mode keys data))

/-- `my_decrypt` without the static schedules. -/
def pureDecrypt (prim : Primitives) (mode : CryptoMode) (keys : Keys) (data : Bytes) : Decrypted :=
  if maxDataLen < data.length then ⟨none, []⟩
  else if mode.isHmacUsed then
    match authVerify prim mode keys data with
    | none => ⟨none, []⟩
    | some len => pureCipherDecrypt prim mode keys (mode.decryptKey keys) (data.take len)
  else
    let plain := pureCipherDecrypt prim mode keys (mode.decryptKey keys) data
    match plain.len with
    | none => plain
    | some len => ⟨authVerify prim mode keys (plain.written.take len), plain.written⟩

variable {prim : Primitives} {mode : CryptoMode} {keys : Keys} {aes : AesState}

/-- The single block encryption works with its own key and keeps the schedules. -/
theorem aesEcbEncrypt_pure (prim : Primitives) (holds : aes.Holds mode keys) (data : Bytes) :
    (aesEcbEncrypt prim keys aes data).1 = pureEcbEncrypt prim keys data ∧
      (aesEcbEncrypt prim keys aes data).2.Holds mode keys := by
  constructor
  · simp only [aesEcbEncrypt, pureEcbEncrypt, KeyCache.use_key holds.ecbEncrypt]
  · exact { holds with ecbEncrypt := KeyCache.use_holds holds.ecbEncrypt }

/-- The single block decryption works with its own key and keeps the schedules. -/
theorem aesEcbDecrypt_pure (prim : Primitives) (holds : aes.Holds mode keys) (data : Bytes) :
    (aesEcbDecrypt prim keys aes data).1 = pureEcbDecrypt prim keys data ∧
      (aesEcbDecrypt prim keys aes data).2.Holds mode keys := by
  constructor
  · simp only [aesEcbDecrypt, pureEcbDecrypt, KeyCache.use_key holds.ecbDecrypt]
  · exact { holds with ecbDecrypt := KeyCache.use_holds holds.ecbDecrypt }

/-- A cipher encryption that does not stop the process is the pure one. -/
theorem cipherEncrypt_pure (holds : aes.Holds mode keys) (junk : Nat → UInt8) (data : Bytes)
    {output : Option Bytes} {next : AesState}
    (ran : cipherEncrypt prim mode keys junk aes (mode.encryptKey keys) data = .ok (output, next)) :
    output = some (pureCipherEncrypt prim mode keys junk (mode.encryptKey keys) data) ∧
      next.Holds mode keys := by
  unfold cipherEncrypt at ran
  unfold pureCipherEncrypt
  cases chosen : mode.cipher with
  | none =>
    simp only [chosen, Except.ok.injEq, Prod.mk.injEq] at ran
    obtain ⟨rfl, rfl⟩ := ran
    exact ⟨rfl, holds⟩
  | xor =>
    simp only [chosen, Except.ok.injEq, Prod.mk.injEq] at ran
    obtain ⟨rfl, rfl⟩ := ran
    exact ⟨rfl, holds⟩
  | aes128cbc =>
    simp only [chosen, KeyCache.use_key holds.cbcEncrypt, Except.ok.injEq, Prod.mk.injEq] at ran
    obtain ⟨rfl, rfl⟩ := ran
    exact ⟨rfl, { holds with cbcEncrypt := KeyCache.use_holds holds.cbcEncrypt }⟩
  | aes128cfb =>
    have cached : AesState.Holds mode keys
        { aes with cfbEncrypt := (aes.cfbEncrypt.use (mode.encryptKey keys)).2 } :=
      { holds with cfbEncrypt := KeyCache.use_holds holds.cfbEncrypt }
    by_cases long : 16 ≤ data.length
    · simp only [chosen, assert, long, decide_true, if_true, bind, Except.bind,
        KeyCache.use_key holds.cfbEncrypt, Except.ok.injEq, Prod.mk.injEq] at ran
      obtain ⟨rfl, rfl⟩ := ran
      by_cases old : mode.aes128cfbOld
      · simp only [old, if_true, true_and]
        exact cached
      · have first := aesEcbEncrypt_pure prim cached data
        simp only [old, if_false, Bool.false_eq_true]
        exact ⟨by rw [first.1], first.2⟩
    · simp [chosen, assert, long, bind, Except.bind] at ran

/-- A cipher encryption of at least one block does not stop the process. -/
theorem cipherEncrypt_runs (prim : Primitives) (mode : CryptoMode) (keys : Keys)
    (aes : AesState) (junk : Nat → UInt8) (key : AesBlock) {data : Bytes}
    (long : 16 ≤ data.length) :
    ∃ result, cipherEncrypt prim mode keys junk aes key data = .ok result := by
  unfold cipherEncrypt
  cases chosen : mode.cipher with
  | none => exact ⟨_, rfl⟩
  | xor => exact ⟨_, rfl⟩
  | aes128cbc => exact ⟨_, rfl⟩
  | aes128cfb =>
    simp only [assert, long, decide_true, if_true]
    exact ⟨_, rfl⟩

/-- A cipher decryption is the pure one. -/
theorem cipherDecrypt_pure (prim : Primitives) (holds : aes.Holds mode keys) (data : Bytes) :
    (cipherDecrypt prim mode keys aes (mode.decryptKey keys) data).1 =
        pureCipherDecrypt prim mode keys (mode.decryptKey keys) data ∧
      (cipherDecrypt prim mode keys aes (mode.decryptKey keys) data).2.Holds mode keys := by
  unfold cipherDecrypt pureCipherDecrypt
  cases chosen : mode.cipher with
  | none => exact ⟨rfl, holds⟩
  | xor => exact ⟨rfl, holds⟩
  | aes128cbc =>
    by_cases whole : data.length % 16 = 0
    · simp only [whole, ne_eq, not_true_eq_false, if_false, KeyCache.use_key holds.cbcDecrypt,
        true_and]
      exact { holds with cbcDecrypt := KeyCache.use_holds holds.cbcDecrypt }
    · simp only [ne_eq, whole, not_false_eq_true, if_true, true_and]
      exact holds
  | aes128cfb =>
    have cached : AesState.Holds mode keys
        { aes with cfbDecrypt := (aes.cfbDecrypt.use (mode.decryptKey keys)).2 } :=
      { holds with cfbDecrypt := KeyCache.use_holds holds.cfbDecrypt }
    by_cases short : data.length < 16
    · simp only [short, if_true, true_and]
      exact holds
    · by_cases old : mode.aes128cfbOld
      · simp only [short, if_false, old, if_true, KeyCache.use_key holds.cfbDecrypt, true_and]
        exact cached
      · have first := aesEcbDecrypt_pure prim cached
          (BlockModes.cfbDecrypt (prim.aesEncrypt (mode.decryptKey keys)) zeroIv 0 data)
        simp only [short, if_false, old, Bool.false_eq_true, KeyCache.use_key holds.cfbDecrypt]
        exact ⟨by rw [first.1], first.2⟩

/-- An encryption call that does not stop the process is the pure one. -/
theorem myEncrypt_pure (holds : aes.Holds mode keys) (junk : Nat → UInt8) (data : Bytes)
    {output : Option Bytes} {next : AesState}
    (ran : myEncrypt prim mode keys junk aes data = .ok (output, next)) :
    output = pureEncrypt prim mode keys junk data ∧ next.Holds mode keys := by
  unfold myEncrypt at ran
  unfold pureEncrypt
  by_cases huge : maxDataLen < data.length
  · simp only [huge, if_true, Except.ok.injEq, Prod.mk.injEq] at ran ⊢
    obtain ⟨rfl, rfl⟩ := ran
    exact ⟨rfl, holds⟩
  · by_cases hmac : mode.isHmacUsed
    · have key : mode.encryptKey keys = cipherBlock keys.cipherKeyEncrypt := by
        simp [CryptoMode.encryptKey, hmac]
      simp only [huge, if_false, hmac, if_true, encryptAE] at ran ⊢
      cases inner : cipherEncrypt prim mode keys junk aes (cipherBlock keys.cipherKeyEncrypt)
          data with
      | error fault => simp [inner, bind, Except.bind] at ran
      | ok result =>
        simp only [inner, bind, Except.bind, Except.ok.injEq, Prod.mk.injEq] at ran
        obtain ⟨rfl, rfl⟩ := ran
        rw [← key] at inner
        obtain ⟨written, kept⟩ := cipherEncrypt_pure holds junk data inner
        exact ⟨by rw [written]; rfl, kept⟩
    · have key : mode.encryptKey keys = keys.normalKey := by
        simp [CryptoMode.encryptKey, hmac]
      simp only [huge, if_false, hmac, Bool.false_eq_true] at ran ⊢
      rw [← key] at ran
      exact cipherEncrypt_pure holds junk _ ran

/-- An encryption call on at least one block of data does not stop the process. -/
theorem myEncrypt_runs (prim : Primitives) (mode : CryptoMode) (keys : Keys) (aes : AesState)
    (junk : Nat → UInt8) {data : Bytes} (long : 16 ≤ data.length) :
    ∃ result, myEncrypt prim mode keys junk aes data = .ok result := by
  unfold myEncrypt
  split
  · exact ⟨_, rfl⟩
  · split
    · obtain ⟨result, ran⟩ :=
        cipherEncrypt_runs prim mode keys aes junk (cipherBlock keys.cipherKeyEncrypt) long
      exact ⟨(result.1.map (authCal prim mode keys), result.2), by
        simp only [encryptAE, ran, bind, Except.bind]⟩
    · refine cipherEncrypt_runs prim mode keys aes junk _ ?_
      simp only [authCal, List.length_append]
      omega

/-- A decryption call is the pure one. -/
theorem myDecrypt_pure (holds : aes.Holds mode keys) (data : Bytes) :
    (myDecrypt prim mode keys aes data).1 = pureDecrypt prim mode keys data ∧
      (myDecrypt prim mode keys aes data).2.Holds mode keys := by
  unfold myDecrypt pureDecrypt
  by_cases huge : maxDataLen < data.length
  · simp only [huge, if_true, true_and]
    exact holds
  · by_cases hmac : mode.isHmacUsed
    · have key : mode.decryptKey keys = cipherBlock keys.cipherKeyDecrypt := by
        simp [CryptoMode.decryptKey, hmac]
      simp only [huge, if_false, hmac, if_true, decryptAE]
      cases authVerify prim mode keys data with
      | none => exact ⟨rfl, holds⟩
      | some len =>
        simp only [← key]
        exact cipherDecrypt_pure prim holds _
    · have key : mode.decryptKey keys = keys.normalKey := by
        simp [CryptoMode.decryptKey, hmac]
      obtain ⟨same, kept⟩ := cipherDecrypt_pure prim holds data
      simp only [huge, if_false, hmac, Bool.false_eq_true, ← key, same]
      cases (pureCipherDecrypt prim mode keys (mode.decryptKey keys) data).len with
      | none => exact ⟨rfl, kept⟩
      | some len => exact ⟨rfl, kept⟩

/-! ### The round trip between peers -/

/-- What one side encrypts with is what the other side decrypts with. -/
structure Peers (sender receiver : Keys) : Prop where
  /-- The key without directions. -/
  normalKey : sender.normalKey = receiver.normalKey
  /-- The tag key of this direction. -/
  hmacKey : sender.hmacKeyEncrypt = receiver.hmacKeyDecrypt
  /-- The cipher key of this direction. -/
  cipherKey : sender.cipherKeyEncrypt = receiver.cipherKeyDecrypt

/-- Keys from one password on the two sides match in both directions. -/
theorem myInitKeys_peers (prim : Primitives) (userPasswd : Bytes) (isClient : Bool) :
    Peers (myInitKeys prim userPasswd isClient) (myInitKeys prim userPasswd (!isClient)) := by
  cases isClient <;> constructor <;> rfl

/-- Every tag has its mode's length. -/
theorem authTag_length (prim : Primitives) (auth : AuthMode) (hmacKey : Vector UInt8 64)
    (data : Bytes) : (authTag prim auth hmacKey data).length = tagLen auth := by
  cases auth <;> simp [authTag, tagLen, simpleHash]

/-- A tagged message verifies at the peer. -/
theorem authVerify_authCal {sender receiver : Keys} (peers : Peers sender receiver)
    (data : Bytes) :
    authVerify prim mode receiver (authCal prim mode sender data) = some data.length := by
  have tag := authTag_length prim mode.auth sender.hmacKeyEncrypt data
  have total : (authCal prim mode sender data).length = data.length + tagLen mode.auth := by
    simp [authCal, tag]
  unfold authVerify
  rw [if_neg (by omega)]
  have len : (authCal prim mode sender data).length - tagLen mode.auth = data.length := by omega
  simp only [len]
  have message : (authCal prim mode sender data).take data.length = data := by simp [authCal]
  have rest : (authCal prim mode sender data).drop data.length =
      authTag prim mode.auth sender.hmacKeyEncrypt data := by simp [authCal]
  rw [message, rest, peers.hmacKey, if_pos rfl]

/-- The repeated exclusive or undoes itself. -/
theorem cipherXor_cancel (key : AesBlock) (data : Bytes) :
    cipherXor key (cipherXor key data) = data := by
  apply List.ext_getElem
  · simp [cipherXor]
  · intro index left right
    simp only [cipherXor, List.getElem_map, List.getElem_zipIdx, Nat.zero_add, UInt8.xor_assoc,
      UInt8.xor_self, UInt8.xor_zero]

/-- The exclusive or keeps lengths. -/
theorem cipherXor_length (key : AesBlock) (data : Bytes) :
    (cipherXor key data).length = data.length := by simp [cipherXor]

/-- The padded length is the next multiple of sixteen above the length. -/
theorem padding_length (junk : Nat → UInt8) (data : Bytes) :
    (padding junk data 16).length = (data.length / 16 + 1) * 16 := by
  simp only [padding, List.length_append, List.length_map, List.length_range,
    List.length_singleton]
  split <;> omega

/-- The padding is read off its last byte. -/
theorem dePadding_padding (junk : Nat → UInt8) (data : Bytes) :
    dePadding (padding junk data 16) 16 = some data.length := by
  have total := padding_length junk data
  have count : ∃ count, 1 ≤ count ∧ count ≤ 16 ∧
      (padding junk data 16).length = data.length + count ∧
        (padding junk data 16).getLast? = some (UInt8.ofNat count) := by
    refine ⟨(padding junk data 16).length - data.length, by omega, by omega, by omega, ?_⟩
    rw [total]
    simp only [padding, List.getLast?_append, List.getLast?_singleton, Option.some_or,
      Option.some.injEq]
    congr 1
    split <;> omega
  obtain ⟨count, low, high, length, last⟩ := count
  have byte : (UInt8.ofNat count).toNat = count := by
    simp only [UInt8.toNat_ofNat']
    omega
  simp only [dePadding, last, byte, length]
  rw [if_neg (by omega), if_neg (by omega)]
  congr 1
  omega

/-- The data stands in front of its padding. -/
theorem take_padding (junk : Nat → UInt8) (data : Bytes) :
    (padding junk data 16).take data.length = data := by
  simp [padding, List.append_assoc]

/-- The single block encryption keeps the length of a string of at least one block. -/
theorem pureEcbEncrypt_length (prim : Primitives) (keys : Keys) {data : Bytes}
    (long : 16 ≤ data.length) : (pureEcbEncrypt prim keys data).length = data.length := by
  simp only [pureEcbEncrypt, List.length_append, Vector.length_toList, List.length_drop]
  omega

/-- The single block encryption is undone at the peer. -/
theorem pureEcb_roundtrip {sender receiver : Keys} (peers : Peers sender receiver) {data : Bytes}
    (long : 16 ≤ data.length) :
    pureEcbDecrypt prim receiver (pureEcbEncrypt prim sender data) = data := by
  unfold pureEcbDecrypt pureEcbEncrypt
  rw [blockOf_append, drop_append, peers.cipherKey, prim.aesInverse, blockOf_toList data long,
    List.take_append_drop]

/-- Whatever the cipher, the peer with the same cipher key recovers the message in front of
what it decrypts. -/
theorem pureCipher_roundtrip (prim : Primitives) (mode : CryptoMode) {sender receiver : Keys}
    (peers : Peers sender receiver) (junk : Nat → UInt8) (key : AesBlock) {data : Bytes}
    (long : 16 ≤ data.length) :
    let plain := pureCipherDecrypt prim mode receiver key
      (pureCipherEncrypt prim mode sender junk key data)
    plain.len = some data.length ∧ plain.written.take data.length = data := by
  unfold pureCipherEncrypt pureCipherDecrypt
  cases chosen : mode.cipher with
  | none => simp
  | xor => simp [cipherXor_length, cipherXor_cancel]
  | aes128cbc =>
    have whole := padding_length junk data
    have blocks : (data.length / 16 + 1) * 16 / 16 = data.length / 16 + 1 := by omega
    have undone := cbc_roundtrip (prim.aesEncrypt key) (prim.aesDecrypt key) (prim.aesInverse key)
      (data.length / 16 + 1) zeroIv (padding junk data 16) whole
    simp only [whole, blocks, cbcEncrypt_length, Nat.mul_mod_left, ne_eq, not_true_eq_false,
      if_false, undone, dePadding_padding, take_padding, and_self]
  | aes128cfb =>
    by_cases old : mode.aes128cfbOld
    · simp [old, cfbEncrypt_length, cfb_roundtrip, Nat.not_lt.mpr long]
    · have length := pureEcbEncrypt_length prim sender long
      simp only [old, Bool.false_eq_true, if_false, cfbEncrypt_length, length,
        Nat.not_lt.mpr long, cfb_roundtrip, pureEcb_roundtrip peers long, List.take_length,
        and_self]

/-- What a sender encrypts, its peer decrypts to the same bytes, when the ciphertext fits. -/
theorem pureEncrypt_roundtrip {sender receiver : Keys} (peers : Peers sender receiver)
    {junk : Nat → UInt8} {data output : Bytes} (long : 16 ≤ data.length)
    (sent : pureEncrypt prim mode sender junk data = some output)
    (fits : output.length ≤ maxDataLen) :
    (pureDecrypt prim mode receiver output).len = some data.length ∧
      (pureDecrypt prim mode receiver output).written.take data.length = data := by
  have key : mode.encryptKey sender = mode.decryptKey receiver := by
    simp only [CryptoMode.encryptKey, CryptoMode.decryptKey, peers.normalKey, peers.cipherKey]
  unfold pureEncrypt at sent
  unfold pureDecrypt
  rw [if_neg (Nat.not_lt.mpr fits)]
  by_cases huge : maxDataLen < data.length
  · simp [huge] at sent
  · by_cases hmac : mode.isHmacUsed
    · simp only [huge, if_false, hmac, if_true, Option.some.injEq] at sent ⊢
      obtain rfl := sent
      rw [authVerify_authCal peers, key]
      have front : (authCal prim mode sender (pureCipherEncrypt prim mode sender junk
          (mode.decryptKey receiver) data)).take (pureCipherEncrypt prim mode sender junk
            (mode.decryptKey receiver) data).length =
          pureCipherEncrypt prim mode sender junk (mode.decryptKey receiver) data := by
        simp [authCal]
      simp only [front]
      exact pureCipher_roundtrip prim mode peers junk (mode.decryptKey receiver) long
    · simp only [huge, if_false, hmac, Bool.false_eq_true, Option.some.injEq] at sent ⊢
      obtain rfl := sent
      have tagged : 16 ≤ (authCal prim mode sender data).length := by
        simp only [authCal, List.length_append]
        omega
      obtain ⟨len, written⟩ := pureCipher_roundtrip prim mode peers junk
        (mode.decryptKey receiver) tagged
      rw [key]
      simp only [len, written, authVerify_authCal peers, true_and]
      have front := congrArg (List.take data.length) written
      rw [List.take_take, Nat.min_eq_left (by simp [authCal])] at front
      rw [front]
      simp [authCal]

/-! ### Whole histories of calls -/

/-- One call of the encryption interface. -/
inductive CryptCall where
  /-- `my_encrypt` of a message, with what its padding buffer held. -/
  | encrypt (junk : Nat → UInt8) (data : Bytes)
  /-- `my_decrypt` of arbitrary bytes. -/
  | decrypt (data : Bytes)
  /-- `aes_ecb_encrypt1` of the start of a frame. -/
  | ecbEncrypt (data : Bytes)
  /-- `aes_ecb_decrypt1` of the start of a frame. -/
  | ecbDecrypt (data : Bytes)

/-- The static schedules after one call. -/
def CryptCall.step (prim : Primitives) (mode : CryptoMode) (keys : Keys) (aes : AesState) :
    CryptCall → Exec AesState
  | .encrypt junk data => (myEncrypt prim mode keys junk aes data).map Prod.snd
  | .decrypt data => .ok (myDecrypt prim mode keys aes data).2
  | .ecbEncrypt data => .ok (aesEcbEncrypt prim keys aes data).2
  | .ecbDecrypt data => .ok (aesEcbDecrypt prim keys aes data).2

/-- The static schedules of a process after a history of calls that did not stop it. -/
def afterCalls (prim : Primitives) (mode : CryptoMode) (keys : Keys) (history : List CryptCall) :
    Exec AesState :=
  history.foldlM (CryptCall.step prim mode keys) AesState.initial

/-- One call keeps the schedules. -/
theorem CryptCall.step_holds (call : CryptCall) {next : AesState} (holds : aes.Holds mode keys)
    (ran : call.step prim mode keys aes = .ok next) : next.Holds mode keys := by
  cases call with
  | encrypt junk data =>
    simp only [CryptCall.step] at ran
    cases inner : myEncrypt prim mode keys junk aes data with
    | error fault => simp [inner, Except.map] at ran
    | ok result =>
      simp only [inner, Except.map, Except.ok.injEq] at ran
      obtain rfl := ran
      exact (myEncrypt_pure holds junk data inner).2
  | decrypt data =>
    simp only [CryptCall.step, Except.ok.injEq] at ran
    obtain rfl := ran
    exact (myDecrypt_pure holds data).2
  | ecbEncrypt data =>
    simp only [CryptCall.step, Except.ok.injEq] at ran
    obtain rfl := ran
    exact (aesEcbEncrypt_pure prim holds data).2
  | ecbDecrypt data =>
    simp only [CryptCall.step, Except.ok.injEq] at ran
    obtain rfl := ran
    exact (aesEcbDecrypt_pure prim holds data).2

/-- Every history of calls keeps the schedules. -/
theorem afterCalls_holds (history : List CryptCall) {final : AesState}
    (ran : afterCalls prim mode keys history = .ok final) : final.Holds mode keys := by
  suffices general : ∀ (history : List CryptCall) (aes : AesState), aes.Holds mode keys →
      history.foldlM (CryptCall.step prim mode keys) aes = .ok final → final.Holds mode keys from
    general history _ (AesState.initial_holds mode keys) ran
  intro history
  induction history with
  | nil =>
    intro aes holds ended
    obtain rfl := Except.ok.inj ended
    exact holds
  | cons call rest ih =>
    intro aes holds ended
    rw [List.foldlM_cons] at ended
    cases first : call.step prim mode keys aes with
    | error fault => simp [first, bind, Except.bind] at ended
    | ok middle =>
      simp only [first, bind, Except.bind] at ended
      exact ih middle (call.step_holds holds first) ended

/-- The encryption round trip. Both sides set their keys from one password and have made any
calls before. What one side's `my_encrypt` then outputs for a message of at least sixteen
bytes, when it fits, the other side's `my_decrypt` turns into the same bytes and length. -/
theorem myEncrypt_roundtrip (prim : Primitives) (mode : CryptoMode) (userPasswd : Bytes)
    (isClient : Bool) (senderHistory receiverHistory : List CryptCall)
    (senderAes receiverAes : AesState)
    (senderRan : afterCalls prim mode (myInitKeys prim userPasswd isClient) senderHistory =
      .ok senderAes)
    (receiverRan : afterCalls prim mode (myInitKeys prim userPasswd (!isClient)) receiverHistory =
      .ok receiverAes)
    (junk : Nat → UInt8) (data : Bytes) (long : 16 ≤ data.length)
    (bounded : data.length ≤ maxDataLen) :
    ∃ output next, myEncrypt prim mode (myInitKeys prim userPasswd isClient) junk senderAes data =
        .ok (some output, next) ∧
      (output.length ≤ maxDataLen →
        (myDecrypt prim mode (myInitKeys prim userPasswd (!isClient)) receiverAes output).1.len =
            some data.length ∧
          (myDecrypt prim mode (myInitKeys prim userPasswd (!isClient)) receiverAes
            output).1.written.take data.length = data) := by
  have senderHolds := afterCalls_holds senderHistory senderRan
  have receiverHolds := afterCalls_holds receiverHistory receiverRan
  obtain ⟨⟨output, next⟩, ran⟩ := myEncrypt_runs prim mode (myInitKeys prim userPasswd isClient)
    senderAes junk long
  obtain ⟨written, -⟩ := myEncrypt_pure senderHolds junk data ran
  cases output with
  | none =>
    simp only [pureEncrypt, if_neg (Nat.not_lt.mpr bounded)] at written
    split at written <;> contradiction
  | some output =>
    refine ⟨output, next, ran, fun fits => ?_⟩
    rw [(myDecrypt_pure receiverHolds output).1]
    exact pureEncrypt_roundtrip (myInitKeys_peers prim userPasswd isClient) long written.symm fits

/-- Library functions that can be evaluated by hand: the block functions add the key. -/
def xorPrimitives : Primitives where
  md5 := blockOf 16
  sha1Hmac := fun key data => blockOf 20 (key ++ data)
  pbkdf2 := fun passwd salt => blockOf 32 (passwd ++ salt)
  hkdfSha256Expand := fun _ label length => blockOf length (textBytes label)
  aesEncrypt := fun key block => xorBlock block key
  aesDecrypt := fun key block => xorBlock block key
  aesInverse := fun key block => xorBlock_cancel block key

end Udp2raw
