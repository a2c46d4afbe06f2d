import Udp2raw.Fault
import Udp2raw.Misc
import Udp2raw.Data.BigEndian
import Udp2raw.Data.BlockModes

/-!
# Message encryption

`encrypt.cpp`: a message gets a tag and is encrypted, in the order of its mode. Every AES
entry point keeps the key schedule of its first call in a static variable, and every
caller passes its key only once; `AesState` is that hidden state. MD5, HMAC-SHA1, the key
derivation and the AES block functions are parameters.
-/
namespace Udp2raw

open BlockModes

/-- A block of AES, which is also the size of its key. -/
abbrev AesBlock := Block 16

/-- It is not empty. -/
theorem aesBlock_neZero : NeZero 16 := ⟨by decide⟩

attribute [local instance] aesBlock_neZero

/-- The library functions that the encryption rests on. The two block functions of one key
are inverse to each other. -/
structure Primitives where
  /-- MD5 of a message. -/
  md5 : Bytes → AesBlock
  /-- HMAC-SHA1 of a key and a message. -/
  sha1Hmac : Bytes → Bytes → Vector UInt8 20
  /-- PBKDF2 with ten thousand iterations, from a password and a salt. -/
  pbkdf2 : Bytes → Bytes → Vector UInt8 32
  /-- HKDF expansion of a secret under a label. -/
  hkdfSha256Expand : Vector UInt8 32 → String → (length : Nat) → Vector UInt8 length
  /-- AES encryption of one block under a key. -/
  aesEncrypt : AesBlock → AesBlock → AesBlock
  /-- AES decryption of one block under a key. -/
  aesDecrypt : AesBlock → AesBlock → AesBlock
  /-- Decryption undoes encryption under one key. -/
  aesInverse : ∀ key block, aesDecrypt key (aesEncrypt key block) = block

/-- The command line's choices that the encryption reads. -/
structure CryptoMode where
  /-- `auth_mode`. -/
  auth : AuthMode
  /-- `cipher_mode`. -/
  cipher : CipherMode
  /-- `aes128cfb_old`: without the separate encryption of the first block. -/
  aes128cfbOld : Bool

/-- `is_hmac_used`, set by `my_init_keys`. -/
def CryptoMode.isHmacUsed (mode : CryptoMode) : Bool := mode.auth = .hmacSha1

/-- The key variables that `my_init_keys` fills. -/
structure Keys where
  /-- `normal_key`. -/
  normalKey : AesBlock
  /-- `hmac_key_encrypt`. -/
  hmacKeyEncrypt : Vector UInt8 64
  /-- `hmac_key_decrypt`. -/
  hmacKeyDecrypt : Vector UInt8 64
  /-- `cipher_key_encrypt`. -/
  cipherKeyEncrypt : Vector UInt8 64
  /-- `cipher_key_decrypt`. -/
  cipherKeyDecrypt : Vector UInt8 64
  /-- `gro_xor`. -/
  groXor : Vector UInt8 256

/-- The bytes of a text. -/
def textBytes (text : String) : Bytes := text.toUTF8.toList

/-- `my_init_keys`: the client and the server swap their directions. -/
def myInitKeys (prim : Primitives) (userPasswd : Bytes) (isClient : Bool) : Keys :=
  let normalKey := prim.md5 (userPasswd ++ textBytes "key1")
  let salt := prim.md5 (textBytes "udp2raw_salt1")
  let secret := prim.pbkdf2 userPasswd salt.toList
  let expand := prim.hkdfSha256Expand secret
  let upHmac := "hmac_key client-->server"
  let downHmac := "hmac_key server-->client"
  let upCipher := "cipher_key client-->server"
  let downCipher := "cipher_key server-->client"
  { normalKey
    hmacKeyEncrypt := expand (if isClient then upHmac else downHmac) 64
    hmacKeyDecrypt := expand (if isClient then downHmac else upHmac) 64
    cipherKeyEncrypt := expand (if isClient then upCipher else downCipher) 64
    cipherKeyDecrypt := expand (if isClient then downCipher else upCipher) 64
    groXor := expand "gro" 256 }

/-- The part of a long key that AES and the exclusive or read. -/
def cipherBlock (key : Vector UInt8 64) : AesBlock := blockOf 16 key.toList

/-! ### Tags -/

/-- One step of `crc32h`: the masks are arithmetic shifts of a signed word. -/
def crc32Step (crc : Int32) (byte : UInt8) : Int32 :=
  let g0 : UInt32 := 0xEDB88320
  let g6 := (g0 >>> 6) ^^^ g0
  let g7 := ((g0 >>> 6) ^^^ g0) >>> 1
  let crc := crc ^^^ byte.toUInt32.toInt32
  let mask (shift : Int32) : UInt32 := ((crc <<< shift) >>> 31).toUInt32
  let c := (mask 31 &&& g7) ^^^ (mask 30 &&& g6) ^^^ (mask 29 &&& (g0 >>> 5)) ^^^
    (mask 28 &&& (g0 >>> 4)) ^^^ (mask 27 &&& (g0 >>> 3)) ^^^ (mask 26 &&& (g0 >>> 2)) ^^^
    (mask 25 &&& (g0 >>> 1)) ^^^ (mask 24 &&& g0)
  ((crc.toUInt32 >>> 8) ^^^ c).toInt32

/-- `crc32h`. -/
def crc32h (message : Bytes) : UInt32 :=
  ~~~ (message.foldl crc32Step (0xFFFFFFFF : UInt32).toInt32).toUInt32

/-- `simple_hash`: two running hashes, stored one after the other. -/
def simpleHash (message : Bytes) : Bytes :=
  let hashes := message.foldl (fun (hash : UInt32 × UInt32) byte =>
    (((hash.1 <<< 5) + hash.1) ^^^ byte.toUInt32,
      byte.toUInt32 + (hash.2 <<< 6) + (hash.2 <<< 16) - hash.2)) (5381, 0)
  BigEndian.encode 4 hashes.1.toNat ++ BigEndian.encode 4 hashes.2.toNat

/-- The tag of a message under the authentication key of one direction. -/
def authTag (prim : Primitives) (auth : AuthMode) (hmacKey : Vector UInt8 64) (data : Bytes) :
    Bytes :=
  match auth with
  | .none => []
  | .md5 => (prim.md5 data).toList
  | .crc32 => BigEndian.encode 4 (crc32h data).toNat
  | .simple => simpleHash data
  | .hmacSha1 => (prim.sha1Hmac (hmacKey.toList.take 20) data).toList

/-- The length of a tag. -/
def tagLen : AuthMode → Nat
  | .none => 0
  | .md5 => 16
  | .crc32 => 4
  | .simple => 8
  | .hmacSha1 => 20

/-- `auth_cal`: the message with its tag behind it. -/
def authCal (prim : Primitives) (mode : CryptoMode) (keys : Keys) (data : Bytes) : Bytes :=
  data ++ authTag prim mode.auth keys.hmacKeyEncrypt data

/-- `auth_verify`: the length without the tag when the tag is right. -/
def authVerify (prim : Primitives) (mode : CryptoMode) (keys : Keys) (data : Bytes) : Option Nat :=
  if data.length < tagLen mode.auth then none
  else
    let len := data.length - tagLen mode.auth
    if authTag prim mode.auth keys.hmacKeyDecrypt (data.take len) = data.drop len then some len
    else none

/-! ### Ciphers -/

/-- One static key schedule together with its caller's `first_time`. -/
structure KeyCache where
  /-- Whether the next call passes its key. -/
  firstTime : Bool
  /-- The key whose schedule the entry point holds. -/
  schedule : AesBlock

/-- The key a call works with, and the cache after it: only the first call's key counts. -/
def KeyCache.use (cache : KeyCache) (key : AesBlock) : AesBlock × KeyCache :=
  if cache.firstTime then (key, ⟨false, key⟩) else (cache.schedule, cache)

/-- The static variables of the six AES entry points and their callers. -/
structure AesState where
  /-- `aes_ecb_encrypt`. -/
  ecbEncrypt : KeyCache
  /-- `aes_ecb_decrypt`. -/
  ecbDecrypt : KeyCache
  /-- `cipher_aes128cbc_encrypt`. -/
  cbcEncrypt : KeyCache
  /-- `cipher_aes128cbc_decrypt`. -/
  cbcDecrypt : KeyCache
  /-- `cipher_aes128cfb_encrypt`. -/
  cfbEncrypt : KeyCache
  /-- `cipher_aes128cfb_decrypt`. -/
  cfbDecrypt : KeyCache

/-- The static variables when the process starts. -/
def AesState.initial : AesState :=
  let cache : KeyCache := ⟨true, Vector.replicate 16 0⟩
  ⟨cache, cache, cache, cache, cache, cache⟩

/-- `zero_iv`. -/
def zeroIv : AesBlock := Vector.replicate 16 0

/-- `aes_ecb_encrypt` on the first block of a buffer. -/
def aesEcbEncrypt (prim : Primitives) (keys : Keys) (aes : AesState) (data : Bytes) :
    Bytes × AesState :=
  let (key, cache) := aes.ecbEncrypt.use (cipherBlock keys.cipherKeyEncrypt)
  ((prim.aesEncrypt key (blockOf 16 data)).toList ++ data.drop 16, { aes with ecbEncrypt := cache })

/-- `aes_ecb_decrypt` on the first block of a buffer. -/
def aesEcbDecrypt (prim : Primitives) (keys : Keys) (aes : AesState) (data : Bytes) :
    Bytes × AesState :=
  let (key, cache) := aes.ecbDecrypt.use (cipherBlock keys.cipherKeyDecrypt)
  ((prim.aesDecrypt key (blockOf 16 data)).toList ++ data.drop 16, { aes with ecbDecrypt := cache })

/-- `padding`: the length rounded up past the data; only the last byte is written, the bytes
before it are what the buffer held. -/
def padding (junk : Nat → UInt8) (data : Bytes) (paddingNum : Nat) : Bytes :=
  let oldLen := data.length
  let dataLen := if (oldLen + 1) % paddingNum ≠ 0 then
    (oldLen + 1) / paddingNum * paddingNum + paddingNum else oldLen + 1
  data ++ (List.range (dataLen - 1 - oldLen)).map junk ++ [UInt8.ofNat (dataLen - oldLen)]

/-- `de_padding`: the length without the padding. -/
def dePadding (data : Bytes) (paddingNum : Nat) : Option Nat :=
  match data.getLast? with
  | none => none
  | some last =>
    if paddingNum < last.toNat then none
    else if data.length < last.toNat then none
    else some (data.length - last.toNat)

/-- `cipher_xor_encrypt` and `cipher_xor_decrypt`: the key repeats every sixteen bytes. -/
def cipherXor (key : AesBlock) (data : Bytes) : Bytes :=
  data.zipIdx.map fun (byte, index) => byte ^^^ key.toList.getD (index % 16) 0

/-- `cipher_encrypt`; `none` is an error return. -/
def cipherEncrypt (prim : Primitives) (mode : CryptoMode) (keys : Keys) (junk : Nat → UInt8)
    (aes : AesState) (key : AesBlock) (data : Bytes) : Exec (Option Bytes × AesState) :=
  match mode.cipher with
  | .none => .ok (some data, aes)
  | .xor => .ok (some (cipherXor key data), aes)
  | .aes128cbc =>
    let buf := padding junk data 16
    let (key, cache) := aes.cbcEncrypt.use key
    .ok (some (BlockModes.cbcEncrypt (prim.aesEncrypt key) (buf.length / 16) zeroIv buf),
      { aes with cbcEncrypt := cache })
  | .aes128cfb => do
    assert (16 ≤ data.length) "len >= 16"
    let (key, cache) := aes.cfbEncrypt.use key
    let aes := { aes with cfbEncrypt := cache }
    let (buf, aes) := if mode.aes128cfbOld then (data, aes) else aesEcbEncrypt prim keys aes data
    .ok (some (BlockModes.cfbEncrypt (prim.aesEncrypt key) zeroIv 0 buf), aes)

/-- The effect of a decryption: the length it returns, or `none` for an error return, and the
bytes it wrote to the output buffer. -/
structure Decrypted where
  /-- The returned length. -/
  len : Option Nat
  /-- The bytes written from the start of the output buffer. -/
  written : Bytes

/-- `cipher_decrypt`. -/
def cipherDecrypt (prim : Primitives) (mode : CryptoMode) (keys : Keys) (aes : AesState)
    (key : AesBlock) (data : Bytes) : Decrypted × AesState :=
  match mode.cipher with
  | .none => (⟨some data.length, data⟩, aes)
  | .xor => (⟨some data.length, cipherXor key data⟩, aes)
  | .aes128cbc =>
    if data.length % 16 ≠ 0 then (⟨none, []⟩, aes)
    else
      let (key, cache) := aes.cbcDecrypt.use key
      let output := BlockModes.cbcDecrypt (prim.aesDecrypt key) (data.length / 16) zeroIv data
      (⟨dePadding output 16, output⟩, { aes with cbcDecrypt := cache })
  | .aes128cfb =>
    if data.length < 16 then (⟨none, []⟩, aes)
    else
      let (key, cache) := aes.cfbDecrypt.use key
      let aes := { aes with cfbDecrypt := cache }
      let output := BlockModes.cfbDecrypt (prim.aesEncrypt key) zeroIv 0 data
      let (output, aes) :=
        if mode.aes128cfbOld then (output, aes) else aesEcbDecrypt prim keys aes output
      (⟨some output.length, output⟩, aes)

/-- `encrypt_AE`: encrypt, then append the tag of the ciphertext. -/
def encryptAE (prim : Primitives) (mode : CryptoMode) (keys : Keys) (junk : Nat → UInt8)
    (aes : AesState) (data : Bytes) : Exec (Option Bytes × AesState) := do
  let (output, aes) ←
    cipherEncrypt prim mode keys junk aes (cipherBlock keys.cipherKeyEncrypt) data
  .ok (output.map (authCal prim mode keys), aes)

/-- `decrypt_AE`: verify the tag of the ciphertext, then decrypt. -/
def decryptAE (prim : Primitives) (mode : CryptoMode) (keys : Keys) (aes : AesState)
    (data : Bytes) : Decrypted × AesState :=
  match authVerify prim mode keys data with
  | none => (⟨none, []⟩, aes)
  | some len =>
    cipherDecrypt prim mode keys aes (cipherBlock keys.cipherKeyDecrypt) (data.take len)

/-- `my_encrypt`; `none` is an error return. -/
def myEncrypt (prim : Primitives) (mode : CryptoMode) (keys : Keys) (junk : Nat → UInt8)
    (aes : AesState) (data : Bytes) : Exec (Option Bytes × AesState) :=
  if maxDataLen < data.length then .ok (none, aes)
  else if mode.isHmacUsed then encryptAE prim mode keys junk aes data
  else cipherEncrypt prim mode keys junk aes keys.normalKey (authCal prim mode keys data)

/-- `my_decrypt`. -/
def myDecrypt (prim : Primitives) (mode : CryptoMode) (keys : Keys) (aes : AesState)
    (data : Bytes) : Decrypted × AesState :=
  if maxDataLen < data.length then (⟨none, []⟩, aes)
  else if mode.isHmacUsed then decryptAE prim mode keys aes data
  else
    let (plain, aes) := cipherDecrypt prim mode keys aes keys.normalKey data
    match plain.len with
    | none => (plain, aes)
    | some len => (⟨authVerify prim mode keys (plain.written.take len), plain.written⟩, aes)

end Udp2raw
