import Udp2raw.Connection.Limits
import Udp2raw.Data.Refinement
import Udp2raw.SendFault

/-!
# The buffers of the encryption

`encrypt.cpp` once more, with its working buffers. A message that is not too long is written inside
all of them, and the output buffer then holds what the encryption returns.
-/
namespace Udp2raw

open BlockModes (blockOf)

attribute [local instance] aesBlock_neZero

section

variable (prim : Primitives) (mode : CryptoMode) (keys : Keys)

/-- `auth_cal`: the message is copied and its tag stored behind it. All but HMAC compute the tag of
the copy. -/
def authCalInto (data : Bytes) (output : SendBuffer) (place : Nat) :
    SendExec (SendBuffer × Nat) := do
  let output ← output.copy place data "output"
  let tagged := if mode.auth = .hmacSha1 then data else output.bytes place data.length
  let tag := authTag prim mode.auth keys.hmacKeyEncrypt tagged
  let output ← output.copy (place + data.length) tag "output + len"
  return (output, ← intLen (data.length + tagLen mode.auth))

/-- The length that `padding` rounds up to. -/
def paddedLen (oldLen paddingNum : Nat) : SendExec Nat := do
  let dataLen ← intLen (oldLen + 1)
  if dataLen % paddingNum ≠ 0 then intLen (dataLen / paddingNum * paddingNum + paddingNum)
  else return dataLen

/-- `padding`, which writes the last byte. -/
def paddingInto (data : SendBuffer) (oldLen paddingNum : Nat) : SendExec (SendBuffer × Nat) := do
  let dataLen ← paddedLen oldLen paddingNum
  return (← data.copy (dataLen - 1) [UInt8.ofNat (dataLen - oldLen)] "data[data_len - 1]", dataLen)

/-- `cipher_aes128cbc_encrypt`; behind the message its buffer holds junk. -/
def cipherCbcInto (junk : Nat → UInt8) (aes : AesState) (key : AesBlock) (data : Bytes)
    (output : SendBuffer) (place : Nat) : SendExec (SendBuffer × Nat × AesState) := do
  let buf := SendBuffer.fresh fun at_ => junk (at_ - data.length)
  let buf ← buf.copy 0 data "buf"
  let (buf, len) ← paddingInto buf data.length 16
  let (key, cache) := aes.cbcEncrypt.use key
  let encrypted := BlockModes.cbcEncrypt (prim.aesEncrypt key) (len / 16) zeroIv (buf.bytes 0 len)
  return (← output.copy place encrypted "output", len, { aes with cbcEncrypt := cache })

/-- The separate encryption of the first block in `cipher_aes128cfb_encrypt`. -/
def firstBlockInto (aes : AesState) (data : Bytes) (buf : SendBuffer) :
    SendExec (SendBuffer × AesState) :=
  if mode.aes128cfbOld then .ok (buf, aes)
  else do
    let (encrypted, aes) := aesEcbEncrypt prim keys aes data
    return (← buf.copy 0 (encrypted.take 16) "buf", aes)

/-- `cipher_aes128cfb_encrypt`. -/
def cipherCfbInto (memory : Nat → UInt8) (aes : AesState) (key : AesBlock) (data : Bytes)
    (output : SendBuffer) (place : Nat) : SendExec (SendBuffer × Nat × AesState) := do
  checkSend (16 ≤ data.length) "len >= 16"
  let buf ← (SendBuffer.fresh memory).copy 0 data "buf"
  let (key, cache) := aes.cfbEncrypt.use key
  let (buf, aes) ← firstBlockInto prim mode keys { aes with cfbEncrypt := cache } data buf
  let encrypted := BlockModes.cfbEncrypt (prim.aesEncrypt key) zeroIv 0 (buf.bytes 0 data.length)
  return (← output.copy place encrypted "output", data.length, aes)

/-- `cipher_encrypt`. -/
def cipherEncryptInto (memory junk : Nat → UInt8) (aes : AesState) (key : AesBlock) (data : Bytes)
    (output : SendBuffer) (place : Nat) : SendExec (SendBuffer × Nat × AesState) :=
  match mode.cipher with
  | .none => do return (← output.copy place data "output", data.length, aes)
  | .xor => do return (← output.copy place (cipherXor key data) "output[i]", data.length, aes)
  | .aes128cbc => cipherCbcInto prim junk aes key data output place
  | .aes128cfb => cipherCfbInto prim mode keys memory aes key data output place

/-- `encrypt_AE`. -/
def encryptAEInto (memory junk : Nat → UInt8) (aes : AesState) (data : Bytes) (output : SendBuffer)
    (place : Nat) : SendExec (SendBuffer × Nat × AesState) := do
  let buf ← (SendBuffer.fresh memory).copy 0 data "buf"
  let (buf2, len, aes) ← cipherEncryptInto prim mode keys memory junk aes
    (cipherBlock keys.cipherKeyEncrypt) (buf.bytes 0 data.length) (.fresh memory) 0
  let (output, len) ← authCalInto prim mode keys (buf2.bytes 0 len) output place
  return (output, len, aes)

/-- `my_encrypt`; `none` is an error return. -/
def myEncryptInto (memory junk : Nat → UInt8) (aes : AesState) (data : Bytes) (output : SendBuffer)
    (place : Nat) : SendExec (SendBuffer × Option Nat × AesState) :=
  if maxDataLen < data.length then .ok (output, none, aes)
  else if mode.isHmacUsed then do
    let (output, len, aes) ← encryptAEInto prim mode keys memory junk aes data output place
    return (output, some len, aes)
  else do
    let buf ← (SendBuffer.fresh memory).copy 0 data "buf"
    let (buf2, len) ← authCalInto prim mode keys (buf.bytes 0 data.length) (.fresh memory) 0
    let (output, len, aes) ← cipherEncryptInto prim mode keys memory junk aes keys.normalKey
      (buf2.bytes 0 len) output place
    return (output, some len, aes)

end

/-! ### Every write fits -/

section

variable (output : SendBuffer) (place : Nat) (data : Bytes)

variable (prim : Primitives) (mode : CryptoMode) (keys : Keys)

/-- The longest tag. -/
theorem tagLen_le : tagLen mode.auth ≤ 20 := by cases mode.auth <;> decide

/-- The message with its tag fits where there is room for the longest tag. -/
theorem authCalInto_ok (fits : place + data.length + 20 ≤ bufLen) :
    ∃ next : SendBuffer, ∃ len,
      authCalInto prim mode keys data output place = .ok (next, len) ∧
        len = data.length + tagLen mode.auth ∧
        next.bytes place len = authCal prim mode keys data := by
  have tag := authTag_length prim mode.auth keys.hmacKeyEncrypt data
  have short := tagLen_le mode
  have copied : (output.put place data).bytes place data.length = data := output.bytes_put _ _
  have tagged : (if mode.auth = .hmacSha1 then data
      else (output.put place data).bytes place data.length) = data := by
    rw [copied, ite_self]
  have size : bufLen = 2200 := rfl
  refine ⟨(output.put place data).put (place + data.length)
    (authTag prim mode.auth keys.hmacKeyEncrypt data), _, ?_, rfl, ?_⟩
  · unfold authCalInto
    rw [SendBuffer.copy_ok _ (by omega)]
    show (do
      let next ← SendBuffer.copy _ _
        (authTag prim mode.auth keys.hmacKeyEncrypt (if _ then _ else _)) _
      return (next, ← intLen _)) = _
    rw [tagged, SendBuffer.copy_ok _ (by omega), intLen_ok (by omega)]
    rfl
  · rw [← tag, Buffer.bytes_put_append, copied, authCal]

/-- A message in a buffer of junk. -/
theorem fresh_bytes (junk : Nat → UInt8) (gap : Nat) :
    ((SendBuffer.fresh fun at_ => junk (at_ - data.length)).put 0 data).bytes 0
        (data.length + gap) =
      data ++ (List.range gap).map junk := by
  rw [Buffer.bytes_add, Buffer.bytes_put, Buffer.bytes_put_behind _ (by omega)]
  simp [Buffer.bytes, SendBuffer.fresh]

/-- The padding of a message fits where there is room for one more block. -/
theorem paddingInto_ok (junk : Nat → UInt8) (fits : data.length + 16 ≤ bufLen) :
    ∃ next : SendBuffer, ∃ len,
      paddingInto ((SendBuffer.fresh fun at_ => junk (at_ - data.length)).put 0 data)
        data.length 16 = .ok (next, len) ∧
        len = (padding junk data 16).length ∧ next.bytes 0 len = padding junk data 16 := by
  have size : bufLen = 2200 := rfl
  obtain ⟨dataLen, rounded⟩ : ∃ dataLen, dataLen =
      if (data.length + 1) % 16 ≠ 0 then (data.length + 1) / 16 * 16 + 16 else data.length + 1 :=
    ⟨_, rfl⟩
  have more : data.length + 1 ≤ dataLen ∧ dataLen ≤ data.length + 16 := by
    split at rounded <;> omega
  have rounding : paddedLen data.length 16 = .ok dataLen := by
    rw [paddedLen, intLen_ok (by omega), rounded]
    show (if (data.length + 1) % 16 ≠ 0 then intLen _ else pure _) = _
    split
    · exact intLen_ok (by omega)
    · rfl
  have padded : padding junk data 16 = data ++ (List.range (dataLen - 1 - data.length)).map junk ++
      [UInt8.ofNat (dataLen - data.length)] := by
    rw [rounded]
    rfl
  refine ⟨((SendBuffer.fresh fun at_ => junk (at_ - data.length)).put 0 data).put
    (0 + (dataLen - 1)) [UInt8.ofNat (dataLen - data.length)], dataLen, ?_, ?_, ?_⟩
  · rw [paddingInto, rounding, Nat.zero_add]
    show (do return (← SendBuffer.copy _ (dataLen - 1) _ _, dataLen)) = _
    rw [SendBuffer.copy_ok _ (by simp; omega)]
    rfl
  · rw [padded]
    simp
    omega
  · have last : dataLen = dataLen - 1 + [UInt8.ofNat (dataLen - data.length)].length := by
      simp
      omega
    rw [padded]
    nth_rewrite 3 [last]
    rw [Buffer.bytes_put_append,
      show dataLen - 1 = data.length + (dataLen - 1 - data.length) by omega, fresh_bytes]
    simp

/-- The output buffer holds what the cipher returns. -/
def OutputHolds (place : Nat) (got : SendBuffer × Nat × AesState)
    (returned : Option Bytes × AesState) : Prop :=
  returned.1 = some (got.1.bytes place got.2.1) ∧ got.2.2 = returned.2

/-- A range that a piece was written to holds it. -/
theorem outputHolds_put (aes : AesState) (output : SendBuffer) (place : Nat) {bytes : Bytes}
    {length : Nat} (size : bytes.length = length) :
    OutputHolds place (output.put place bytes, length, aes) (some bytes, aes) := by
  subst size
  exact ⟨congrArg some (output.bytes_put place bytes).symm, rfl⟩

variable (memory junk : Nat → UInt8) (aes : AesState) (key : AesBlock)

/-- `cipher_aes128cbc_encrypt` fits where there is room for one more block. -/
theorem cipherCbcInto_matches (fits : place + data.length + 16 ≤ bufLen) :
    Matches SendFault.fault (OutputHolds place) (cipherCbcInto prim junk aes key data output place)
      (.ok (some (BlockModes.cbcEncrypt (prim.aesEncrypt (aes.cbcEncrypt.use key).1)
          ((padding junk data 16).length / 16) zeroIv (padding junk data 16)),
          { aes with cbcEncrypt := (aes.cbcEncrypt.use key).2 }) : Exec _) := by
  obtain ⟨buf, len, padded, rfl, holds⟩ := paddingInto_ok data junk (by omega)
  have whole : (padding junk data 16).length = (data.length / 16 + 1) * 16 :=
    padding_length junk data
  have encrypted : (BlockModes.cbcEncrypt (prim.aesEncrypt (aes.cbcEncrypt.use key).1)
      ((padding junk data 16).length / 16) zeroIv (padding junk data 16)).length =
      (padding junk data 16).length := by
    rw [BlockModes.cbcEncrypt_length, whole, Nat.mul_div_cancel _ (by decide)]
  refine .bind_left (SendBuffer.copy_ok _ (by omega)) (.bind_left padded ?_)
  show Matches _ _
    (do return (← SendBuffer.copy _ _ (BlockModes.cbcEncrypt _ _ _ (buf.bytes 0 _)) _, _, _)) _
  rw [holds]
  have room : place + (BlockModes.cbcEncrypt (prim.aesEncrypt (aes.cbcEncrypt.use key).1)
      ((padding junk data 16).length / 16) zeroIv (padding junk data 16)).length ≤ bufLen := by
    omega
  exact .bind_left (SendBuffer.copy_ok _ room) (outputHolds_put _ output place encrypted)

/-- The first block of a copy is encrypted in place. -/
theorem bytes_put_first (buffer : SendBuffer) (long : 16 ≤ data.length) (encrypted : Bytes)
    (same : encrypted.drop 16 = data.drop 16) (size : encrypted.length = data.length) :
    ((buffer.put 0 data).put 0 (encrypted.take 16)).bytes 0 data.length = encrypted := by
  have block : (encrypted.take 16).length = 16 := by
    rw [List.length_take]
    omega
  have parts := (buffer.put 0 data).bytes_put_inside 0 0 (data.length - 16) (encrypted.take 16)
  have rest := (buffer.put 0 data).bytes_add 0 16 (data.length - 16)
  rw [show 16 + (data.length - 16) = data.length by omega, Buffer.bytes_put] at rest
  rw [block, show 0 + 16 + (data.length - 16) = data.length by omega] at parts
  have behind : (buffer.put 0 data).bytes 16 (data.length - 16) = data.drop 16 := by
    rw [Nat.zero_add] at rest
    have dropped := congrArg (List.drop 16) rest
    rwa [List.drop_left' (by simp), eq_comm] at dropped
  rw [parts, behind, ← same]
  exact List.take_append_drop 16 encrypted

/-- The first block of a message fits. -/
theorem firstBlockInto_ok (long : 16 ≤ data.length) (fits : data.length + 16 ≤ bufLen) :
    ∃ next : SendBuffer,
      firstBlockInto prim mode keys aes data ((SendBuffer.fresh memory).put 0 data) =
        .ok (next,
          (if mode.aes128cfbOld then (data, aes) else aesEcbEncrypt prim keys aes data).2) ∧
      next.bytes 0 data.length =
        (if mode.aes128cfbOld then (data, aes) else aesEcbEncrypt prim keys aes data).1 := by
  unfold firstBlockInto
  by_cases old : mode.aes128cfbOld = true
  · simp only [if_pos old]
    exact ⟨_, rfl, Buffer.bytes_put _ _ _⟩
  · simp only [if_neg old]
    have size : (aesEcbEncrypt prim keys aes data).1.length = data.length := by
      simp [aesEcbEncrypt]
      omega
    have room : 0 + ((aesEcbEncrypt prim keys aes data).1.take 16).length ≤ bufLen := by
      rw [List.length_take]
      omega
    have first := bytes_put_first data (.fresh memory) long (aesEcbEncrypt prim keys aes data).1
      (List.drop_left' (by simp)) size
    refine ⟨_, ?_, first⟩
    rw [SendBuffer.copy_ok _ room]
    rfl

/-- `cipher_aes128cfb_encrypt` fits where the message does. -/
theorem cipherCfbInto_matches (cipher : mode.cipher = .aes128cfb)
    (fits : place + data.length + 16 ≤ bufLen) :
    Matches SendFault.fault (OutputHolds place)
      (cipherCfbInto prim mode keys memory aes key data output place)
      (cipherEncrypt prim mode keys junk aes key data) := by
  unfold cipherEncrypt
  simp only [cipher]
  have checked : Matches SendFault.fault (fun _ _ => 16 ≤ data.length)
      (checkSend (16 ≤ data.length) "len >= 16") (assert (16 ≤ data.length) "len >= 16") := by
    unfold checkSend assert
    by_cases long : 16 ≤ data.length
    · rw [decide_eq_true long]
      exact long
    · rw [decide_eq_false long]
      exact .error _
  refine .bind checked fun _ _ long => .bind_left (SendBuffer.copy_ok _ (by omega)) ?_
  obtain ⟨key', cache, used⟩ : ∃ key' cache, aes.cfbEncrypt.use key = (key', cache) := ⟨_, _, rfl⟩
  rw [used]
  obtain ⟨buf, blocked, holds⟩ := firstBlockInto_ok data prim mode keys memory
    { aes with cfbEncrypt := cache } long (by omega)
  refine .bind_left blocked ?_
  show Matches _ _ (do return (← output.copy place (BlockModes.cfbEncrypt _ _ 0
    (buf.bytes 0 data.length)) "output", data.length, _)) _
  have encrypted := BlockModes.cfbEncrypt_length (prim.aesEncrypt key') zeroIv 0
    (buf.bytes 0 data.length)
  rw [Buffer.length_bytes] at encrypted
  refine .bind_left (SendBuffer.copy_ok _ (by rw [encrypted]; omega)) ?_
  have put := (outputHolds_put aes output place encrypted).1
  refine ⟨?_, rfl⟩
  rw [holds] at put ⊢
  exact put

/-- A cipher fits where there is room for one more block. -/
theorem cipherEncryptInto_matches (fits : place + data.length + 16 ≤ bufLen) :
    Matches SendFault.fault (OutputHolds place)
      (cipherEncryptInto prim mode keys memory junk aes key data output place)
      (cipherEncrypt prim mode keys junk aes key data) := by
  unfold cipherEncryptInto
  cases cipher : mode.cipher with
  | none =>
    unfold cipherEncrypt
    simp only [cipher]
    exact .bind_left (SendBuffer.copy_ok _ (by omega)) (outputHolds_put _ output place rfl)
  | xor =>
    unfold cipherEncrypt
    simp only [cipher]
    have size := cipherXor_length key data
    exact .bind_left (SendBuffer.copy_ok _ (by omega)) (outputHolds_put _ output place size)
  | aes128cbc =>
    unfold cipherEncrypt
    simp only [cipher]
    exact cipherCbcInto_matches output place data prim junk aes key fits
  | aes128cfb =>
    exact cipherCfbInto_matches output place data prim mode keys memory junk aes key cipher fits

/-- What the output buffer of `my_encrypt` holds, if it returns a length. -/
def MessageHolds (place : Nat) (got : SendBuffer × Option Nat × AesState)
    (returned : Option Bytes × AesState) : Prop :=
  returned.1 = got.2.1.map (got.1.bytes place) ∧ got.2.2 = returned.2

/-- A cipher makes a message longer by one block at most. -/
theorem cipherLen_le (plain : Nat) : cipherLen mode.cipher plain ≤ plain + 16 := by
  cases mode.cipher <;> simp only [cipherLen] <;> omega

/-- `encrypt_AE` fits where there is room for one more block and the longest tag. -/
theorem encryptAEInto_matches (fits : place + data.length + 36 ≤ bufLen) :
    Matches SendFault.fault (OutputHolds place)
      (encryptAEInto prim mode keys memory junk aes data output place)
      (encryptAE prim mode keys junk aes data) := by
  refine .bind_left (SendBuffer.copy_ok _ (by omega)) ?_
  rw [Buffer.bytes_put]
  have cipher := cipherEncryptInto_matches (.fresh memory) 0 data prim mode keys memory junk aes
    (cipherBlock keys.cipherKeyEncrypt) (by omega)
  refine .bind cipher.returned fun got returned same => ?_
  obtain ⟨buf2, len, aes⟩ := got
  obtain ⟨plain, next⟩ := returned
  obtain ⟨⟨rfl, rfl⟩, ran⟩ := same
  have size : len = cipherLen mode.cipher data.length := by simpa using cipherEncrypt_length ran
  have short := cipherLen_le mode data.length
  obtain ⟨tagged, total, done, -, holds⟩ := authCalInto_ok output place (buf2.bytes 0 len) prim
    mode keys (by rw [Buffer.length_bytes]; omega)
  refine .bind_left done ?_
  exact ⟨congrArg some holds.symm, rfl⟩

/-- `my_encrypt` never writes behind a buffer. -/
theorem myEncryptInto_matches (near : place ≤ 2) :
    Matches SendFault.fault (MessageHolds place)
      (myEncryptInto prim mode keys memory junk aes data output place)
      (myEncrypt prim mode keys junk aes data) := by
  have size : bufLen = maxDataLen + 400 := rfl
  unfold myEncryptInto myEncrypt
  by_cases long : maxDataLen < data.length
  · rw [if_pos long, if_pos long]
    exact ⟨rfl, rfl⟩
  rw [if_neg long, if_neg long]
  by_cases hmac : mode.isHmacUsed = true
  · rw [if_pos hmac, if_pos hmac]
    have whole := encryptAEInto_matches output place data prim mode keys memory junk aes
      (by omega)
    refine whole.convert_left (fun got => (got.1, some got.2.1, got.2.2)) fun _ _ same => ?_
    exact ⟨same.1, same.2⟩
  · rw [if_neg hmac, if_neg hmac]
    refine .bind_left (SendBuffer.copy_ok _ (by omega)) ?_
    rw [Buffer.bytes_put]
    obtain ⟨tagged, total, done, length, holds⟩ := authCalInto_ok (.fresh memory) 0 data prim mode
      keys (by omega)
    refine .bind_left done ?_
    have short := tagLen_le mode
    have cipher :=
      cipherEncryptInto_matches output place (tagged.bytes 0 total) prim mode keys memory
      junk aes keys.normalKey (by rw [Buffer.length_bytes]; omega)
    rw [← holds]
    refine cipher.convert_left (fun got => (got.1, some got.2.1, got.2.2)) fun _ _ same => ?_
    exact ⟨same.1, same.2⟩

end

end Udp2raw
