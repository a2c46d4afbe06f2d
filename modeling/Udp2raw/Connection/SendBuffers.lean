import Udp2raw.Connection.EncryptBuffers
import Udp2raw.Network.SendBuffers

/-!
# The buffers of the messages

The send functions of `connection.cpp` once more, with their buffers, down to the raw packets.
With a datagram, a heartbeat or a handshake as it can occur they do what they do without the
buffers: no write ends behind its buffer, and no length leaves its type.
-/
namespace Udp2raw

open Proc
open BlockModes (blockOf)

variable {v : IpVersion} {σ τ : Type} [DecidableEq τ]

/-- A program of the send path. -/
abbrev SendProc (v : IpVersion) (α : Type) := Program SendFault (Machine v) α

/-- A program without buffers. -/
def lower {α : Type} (program : Proc v α) : SendProc v α := embedded .fault program

/-- `my_encrypt` into an output buffer, from a place on; `none` is an error return. -/
def encryptMessageInto (options : Options v) (memory : Nat → UInt8) (message : Bytes)
    (output : SendBuffer) (place : Nat) : SendProc v (SendBuffer × Option Nat) := do
  let junk := (← lower ask).junk
  let machine ← get
  let (output, len, aes) ← liftM (myEncryptInto options.prim options.crypto options.keys memory junk
    machine.aes message output place)
  set { machine with aes }
  match len with
  | none => do
    lower (record (.refused message))
    return (output, none)
  | some len => do
    lower (record (.encrypted message (output.bytes place len)))
    return (output, some len)

/-- `send_raw0`. -/
def sendRawPayloadInto (options : Options v) (memory : Nat → UInt8) (raw : RawInfo options.raw)
    (payload : Bytes) : SendProc v (RawInfo options.raw × Int) := do
  lower (record (.rawPayload payload))
  let env := (← lower ask).send
  let now ← lower (segmentTime options)
  let sent ← liftM (sendRaw0Into options.raw memory { env with now } raw payload)
  modify fun machine => { machine with wire := machine.wire ++ sent.packet.toList }
  return (sent.raw, sent.ret)

/-- The plaintext of a bare message in its buffer. -/
def bareMessageInto (memory : Nat → UInt8) (iv padding : UInt64) (data : Bytes) :
    SendExec Bytes := do
  let buf ← (SendBuffer.fresh memory).copy 0 (memoryBytes iv) "send_data_buf"
  let buf ← buf.copy 8 (memoryBytes padding) "send_data_buf + sizeof(iv)"
  let buf ← buf.copy 16 [bareMark] "send_data_buf[sizeof(iv) + sizeof(padding)]"
  let buf ← buf.copy 17 data "send_data_buf + sizeof(iv) + sizeof(padding) + 1"
  let newLen ← intLen (data.length + 17)
  return buf.bytes 0 newLen

/-- `send_bare`. -/
def sendBareInto (options : Options v) (memory : Nat → UInt8) (raw : RawInfo options.raw)
    (data : Bytes) : SendProc v (RawInfo options.raw × Int) := do
  let iv ← lower getTrueRandomNumber64
  let padding ← lower getTrueRandomNumber64
  let message ← liftM (bareMessageInto memory iv padding data)
  match ← encryptMessageInto options memory message (.fresh memory) 0 with
  | (_, none) => return (raw, -1)
  | (buf2, some newLen) => do
    let (raw, _) ← sendRawPayloadInto options memory raw (buf2.bytes 0 newLen)
    return (raw, 0)

/-- `numbers_to_char` in its static buffer. -/
def numbersToCharInto (memory : Nat → UInt8) (id1 id2 id3 : UInt32) : SendExec Bytes := do
  let buf ← (SendBuffer.fresh memory).copy 0 (BigEndian.encode 4 id1.toNat) "buf"
  let buf ← buf.copy 4 (BigEndian.encode 4 id2.toNat) "buf + sizeof(tmp)"
  let buf ← buf.copy 8 (BigEndian.encode 4 id3.toNat) "buf + sizeof(tmp) * 2"
  return buf.bytes 0 12

/-- `send_handshake`. -/
def sendHandshakeInto (options : Options v) (memory : Nat → UInt8) (raw : RawInfo options.raw)
    (id1 id2 id3 : UInt32) : SendProc v (RawInfo options.raw) := do
  let data ← liftM (numbersToCharInto memory id1 id2 id3)
  return (← sendBareInto options memory raw data).1

/-- The plaintext of a safer message in its buffer. -/
def saferMessageInto (memory : Nat → UInt8) (myId oppsiteId : UInt32) (seq : UInt64)
    (type roller : UInt8) (data : Bytes) : SendExec Bytes := do
  let buf ← (SendBuffer.fresh memory).copy 0 (BigEndian.encode 4 myId.toNat) "send_data_buf"
  let buf ← buf.copy 4 (BigEndian.encode 4 oppsiteId.toNat) "send_data_buf + sizeof(n_tmp_id)"
  let buf ← buf.copy 8 (BigEndian.encode 8 seq.toNat) "send_data_buf + sizeof(n_tmp_id) * 2"
  let buf ← buf.copy 16 [type] "send_data_buf[sizeof(n_tmp_id) * 2 + sizeof(n_seq)]"
  let buf ← buf.copy 17 [roller] "send_data_buf[sizeof(n_tmp_id) * 2 + sizeof(n_seq) + 1]"
  let buf ← buf.copy 18 data "send_data_buf + 2 + sizeof(n_tmp_id) * 2 + sizeof(n_seq)"
  let newLen ← intLen (data.length + 18)
  return buf.bytes 0 newLen

/-- The length before a message and its obfuscation, in the buffer behind whose second byte the
message is. -/
def groSealInto (options : Options v) (buffer : SendBuffer) (len : Nat) :
    SendProc v (SendBuffer × Nat) := do
  let stored ← liftM (shortLen len)
  let buffer ← liftM (buffer.copy 0 (BigEndian.encode 2 stored) "send_data_buf2")
  let newLen ← liftM (intLen (len + 2))
  match options.crypto.cipher with
  | .none => return (buffer, newLen)
  | .xor => do
    let gro (place : Nat) := buffer.content place ^^^ options.keys.groXor.toList.getD place 0
    let buffer ← liftM (buffer.copy 0 [gro 0] "send_data_buf2[0]")
    let buffer ← liftM (buffer.copy 1 [gro 1] "send_data_buf2[1]")
    return (buffer, newLen)
  | .aes128cbc | .aes128cfb => do
    let machine ← get
    let sealed := aesEcbEncrypt options.prim options.keys machine.aes (buffer.bytes 0 16)
    set { machine with aes := sealed.2 }
    return (← liftM (buffer.copy 0 sealed.1 "send_data_buf2"), newLen)

/-- What `send_safer` sends for a ciphertext in its second buffer. -/
def frameInto (options : Options v) (buffer : SendBuffer) (len : Nat) :
    SendProc v (SendBuffer × Nat) :=
  if options.fixGro then groSealInto options buffer len else return (buffer, len)

/-- `send_safer`. -/
def sendSaferInto {options : Options v} (memory : Nat → UInt8) (conn : ConnInfo options σ τ)
    (type : UInt8) (data : Bytes) : SendProc v (ConnInfo options σ τ × Int) :=
  if type ≠ typeHeartbeat ∧ type ≠ typeData then return (conn, -1)
  else do
    let blob ← lower (liftM conn.theBlob)
    let (seq, antiReplay) := blob.antiReplay.getNewSeqForSend
    let conn := conn.withAntiReplay blob antiReplay
    let message ←
      liftM (saferMessageInto memory conn.myId conn.oppsiteId seq type conn.myRoller data)
    let place := if options.fixGro then 2 else 0
    match ← encryptMessageInto options memory message (.fresh memory) place with
    | (_, none) => return (conn, -1)
    | (buf2, some newLen) => do
      let (buf2, newLen) ← frameInto options buf2 newLen
      let (rawInfo, ret) ← sendRawPayloadInto options memory conn.rawInfo (buf2.bytes 0 newLen)
      let conn := { conn with rawInfo }
      if ret ≠ 0 then return (conn, -1)
      else do
        let env := (← lower ask).send
        return ({ conn with rawInfo := afterSendRaw0 env conn.rawInfo }, 0)

/-- The conversation number and a datagram in the buffer of `send_data_safer`. -/
def dataInto (memory : Nat → UInt8) (convNum : UInt32) (data : Bytes) : SendExec Bytes := do
  let buf ← (SendBuffer.fresh memory).copy 0 (BigEndian.encode 4 convNum.toNat) "send_data_buf"
  let buf ← buf.copy 4 data "send_data_buf + sizeof(n_conv_num)"
  let newLen ← intLen (data.length + 4)
  return buf.bytes 0 newLen

/-- `send_data_safer`. -/
def sendDataSaferInto {options : Options v} (memory : Nat → UInt8) (conn : ConnInfo options σ τ)
    (data : Bytes) (convNum : UInt32) : SendProc v (ConnInfo options σ τ) := do
  lower (record (.sendDataSafer conn.myId conn.oppsiteId convNum data))
  let content ← liftM (dataInto memory convNum data)
  return (← sendSaferInto memory conn typeData content).1

/-- The heartbeat of a `hb_mode`. -/
def sendHeartbeatInto {options : Options v} (memory : Nat → UInt8) (conn : ConnInfo options σ τ) :
    SendProc v (ConnInfo options σ τ) := do
  let data :=
    match options.hbMode with
    | .data => []
    | .heartbeat => options.hbBuf
  return (← sendSaferInto memory conn typeHeartbeat data).1

/-! ### Messages -/

section

variable (memory : Nat → UInt8) {data : Bytes}

/-- A bare message with its header fits. -/
theorem bareMessageInto_ok (iv padding : UInt64) (fits : data.length + 17 ≤ bufLen) :
    bareMessageInto memory iv padding data = .ok (bareMessage iv padding data) := by
  have size : bufLen = 2200 := rfl
  have word (number : UInt64) : (memoryBytes number).length = 8 := by simp [memoryBytes]
  have first := (SendBuffer.fresh memory).bytes_put 0 (memoryBytes iv)
  rw [word] at first
  have second := Buffer.bytes_put_end first (memoryBytes padding)
  rw [word] at second
  have third := Buffer.bytes_put_end second [bareMark]
  have last := Buffer.bytes_put_end third data
  refine SendExec.step (SendBuffer.copy_ok _ (by rw [word]; omega))
    (SendExec.step (SendBuffer.copy_ok _ (by rw [word]; omega))
      (SendExec.step (SendBuffer.copy_ok _ (show 16 + 1 ≤ bufLen by omega))
        (SendExec.step (SendBuffer.copy_ok _ (by omega))
          (SendExec.step (intLen_ok (by omega)) ?_))))
  refine congrArg Except.ok ?_
  rw [Nat.add_comm data.length]
  refine last.trans ?_
  simp [bareMessage]

/-- The first number of a string in its buffer. -/
theorem bytes_put_word (buffer : SendBuffer) (number : UInt32) :
    (buffer.put 0 (BigEndian.encode 4 number.toNat)).bytes 0 4 =
      BigEndian.encode 4 number.toNat := by
  have first := buffer.bytes_put 0 (BigEndian.encode 4 number.toNat)
  rwa [BigEndian.encode_length] at first

/-- The numbers of a handshake fit. -/
theorem numbersToCharInto_ok (id1 id2 id3 : UInt32) :
    numbersToCharInto memory id1 id2 id3 = .ok (numbersToChar id1 id2 id3) := by
  have size : bufLen = 2200 := rfl
  have second := Buffer.bytes_put_end (bytes_put_word (.fresh memory) id1)
    (BigEndian.encode 4 id2.toNat)
  rw [BigEndian.encode_length] at second
  have third := Buffer.bytes_put_end second (BigEndian.encode 4 id3.toNat)
  rw [BigEndian.encode_length] at third
  refine SendExec.step (SendBuffer.copy_ok _ (by rw [BigEndian.encode_length]; omega))
    (SendExec.step (SendBuffer.copy_ok _ (by rw [BigEndian.encode_length]; omega))
      (SendExec.step (SendBuffer.copy_ok _ (by rw [BigEndian.encode_length]; omega)) ?_))
  exact congrArg Except.ok third

/-- A safer message with its header fits. -/
theorem saferMessageInto_ok (myId oppsiteId : UInt32) (seq : UInt64) (type roller : UInt8)
    (fits : data.length + 18 ≤ bufLen) :
    saferMessageInto memory myId oppsiteId seq type roller data =
      .ok (saferMessage myId oppsiteId seq type roller data) := by
  have size : bufLen = 2200 := rfl
  have second := Buffer.bytes_put_end (bytes_put_word (.fresh memory) myId)
    (BigEndian.encode 4 oppsiteId.toNat)
  rw [BigEndian.encode_length] at second
  have third := Buffer.bytes_put_end second (BigEndian.encode 8 seq.toNat)
  rw [BigEndian.encode_length] at third
  have fourth := Buffer.bytes_put_end third [type]
  have fifth := Buffer.bytes_put_end fourth [roller]
  have last := Buffer.bytes_put_end fifth data
  refine SendExec.step (SendBuffer.copy_ok _ (by rw [BigEndian.encode_length]; omega))
    (SendExec.step (SendBuffer.copy_ok _ (by rw [BigEndian.encode_length]; omega))
      (SendExec.step (SendBuffer.copy_ok _ (by rw [BigEndian.encode_length]; omega))
        (SendExec.step (SendBuffer.copy_ok _ (show 16 + 1 ≤ bufLen by omega))
          (SendExec.step (SendBuffer.copy_ok _ (show 17 + 1 ≤ bufLen by omega))
            (SendExec.step (SendBuffer.copy_ok _ (by omega))
              (SendExec.step (intLen_ok (by omega)) ?_))))))
  refine congrArg Except.ok ?_
  rw [Nat.add_comm data.length]
  refine last.trans ?_
  simp [saferMessage]

/-- A datagram with its conversation number fits. -/
theorem dataInto_ok (convNum : UInt32) (fits : data.length + 4 ≤ bufLen) :
    dataInto memory convNum data = .ok (BigEndian.encode 4 convNum.toNat ++ data) := by
  have size : bufLen = 2200 := rfl
  have last := Buffer.bytes_put_end (bytes_put_word (.fresh memory) convNum) data
  refine SendExec.step (SendBuffer.copy_ok _ (by rw [BigEndian.encode_length]; omega))
    (SendExec.step (SendBuffer.copy_ok _ (by omega)) (SendExec.step (intLen_ok (by omega)) ?_))
  rw [Nat.add_comm data.length]
  exact congrArg Except.ok last

end

/-! ### Programs -/

section

variable {options : Options v} (memory : Nat → UInt8)

/-- A program without buffers refines itself. -/
theorem lower_refines {α : Type} (program : Proc v α) :
    Refines SendFault.fault Eq (lower program) program := .embedded program

/-- A ciphertext is longer than its plaintext by one block and one tag at most. -/
theorem ciphertextLen_le (mode : CryptoMode) (length : Nat) :
    ciphertextLen mode length ≤ length + 36 := by
  have tag := tagLen_le mode
  unfold ciphertextLen
  split
  · have cipher := cipherLen_le mode length
    omega
  · have cipher := cipherLen_le mode (length + tagLen mode.auth)
    omega

/-- What the output buffer of an encrypted message holds, and how much. -/
def CiphertextHolds (message : Bytes) (place : Nat)
    (got : SendBuffer × Option Nat) (output : Option Bytes) : Prop :=
  output = got.2.map (got.1.bytes place) ∧
    ∀ len ∈ got.2, message.length ≤ len ∧ len ≤ maxDataLen + 36

/-- `my_encrypt` into its buffer. -/
theorem encryptMessageInto_refines (message : Bytes) (output : SendBuffer) {place : Nat}
    (near : place ≤ 2) :
    Refines SendFault.fault (CiphertextHolds message place)
      (encryptMessageInto options memory message output place)
      (encryptMessage options message) := by
  refine .bind (lower_refines ask) ?_
  rintro answer _ rfl
  refine .bind .get ?_
  rintro machine _ rfl
  refine .bind (.lift (myEncryptInto_matches output place message options.prim options.crypto
    options.keys memory answer.junk machine.aes near).returned) fun got returned same => ?_
  obtain ⟨buffer, len, aes⟩ := got
  obtain ⟨plain, next⟩ := returned
  obtain ⟨⟨rfl, rfl⟩, ran⟩ := same
  refine .bind (.set _) fun _ _ _ => ?_
  cases len with
  | none =>
    refine .bind (lower_refines (record _)) fun _ _ _ => .pure ?_
    exact ⟨rfl, nofun⟩
  | some len =>
    refine .bind (lower_refines (record _)) fun _ _ _ => .pure ?_
    have size := myEncrypt_length ran
    rw [Buffer.length_bytes] at size
    refine ⟨rfl, fun other same => ?_⟩
    obtain rfl := Option.mem_some_iff.mp same
    have short := ciphertextLen_le options.crypto message.length
    have long := le_ciphertextLen options.crypto message.length
    have length : len = ciphertextLen options.crypto message.length := size.2
    omega

/-- `send_raw0` into the buffers of the raw packets. -/
theorem sendRawPayloadInto_refines (raw : RawInfo options.raw) {payload : Bytes}
    (fits : payload.length + 80 ≤ bufLen) :
    Refines SendFault.fault Eq (sendRawPayloadInto options memory raw payload)
      (sendRawPayload options raw payload) := by
  refine .bind (lower_refines (record _)) fun _ _ _ => .bind (lower_refines ask) ?_
  rintro answer _ rfl
  refine .bind (lower_refines (segmentTime options)) ?_
  rintro now _ rfl
  refine .bind (.lift (sendRaw0Into_matches memory _ raw fits)) ?_
  rintro sent _ rfl
  exact .bind (.modified _) fun _ _ _ => .pure rfl

/-- `send_bare` for data of a handshake's size. -/
theorem sendBareInto_refines (raw : RawInfo options.raw) {data : Bytes}
    (fits : data.length + 17 ≤ bufLen) :
    Refines SendFault.fault Eq (sendBareInto options memory raw data)
      (sendBare options raw data) := by
  refine .bind (lower_refines getTrueRandomNumber64) ?_
  rintro iv _ rfl
  refine .bind (lower_refines getTrueRandomNumber64) ?_
  rintro padding _ rfl
  refine .bind_left (bareMessageInto_ok memory iv padding fits) ?_
  refine .bind (encryptMessageInto_refines memory _ _ (Nat.zero_le 2)) fun got output holds => ?_
  obtain ⟨buf2, len⟩ := got
  obtain ⟨rfl, bound⟩ := holds
  cases len with
  | none => exact .pure rfl
  | some len =>
    have short := (bound len rfl).2
    have room : (buf2.bytes 0 len).length + 80 ≤ bufLen := by
      rw [Buffer.length_bytes]
      show len + 80 ≤ maxDataLen + 400
      omega
    refine .bind (sendRawPayloadInto_refines memory raw room) ?_
    rintro sent _ rfl
    exact .pure rfl

end

/-! ### Safer messages -/

section

variable {options : Options v} (memory : Nat → UInt8)

/-- The first two bytes of a range are changed one by one. -/
theorem bytes_put_twice (buffer : SendBuffer) (change : Nat → UInt8) (length : Nat) :
    ((buffer.put 0 [buffer.content 0 ^^^ change 0]).put 1 [buffer.content 1 ^^^ change 1]).bytes 0
      length = (buffer.bytes 0 length).zipIdx.map fun (byte, place) =>
        if place < 2 then byte ^^^ change place else byte := by
  apply List.ext_getElem
  · simp
  · intro place inside _
    rw [Buffer.getElem_bytes, List.getElem_map, List.getElem_zipIdx, Buffer.getElem_bytes]
    match place with
    | 0 =>
      rw [Buffer.content_put_before _ (by decide)]
      exact Buffer.content_put_of_lt _ (by simp)
    | 1 =>
      show (Buffer.put _ 1 _).content (1 + 0) = _
      exact Buffer.content_put_of_lt _ (by simp)
    | place + 2 =>
      rw [Buffer.content_put_behind _ (by simp), Buffer.content_put_behind _ (by simp)]
      exact (if_neg (by omega)).symm

/-- The first block of a range is encrypted in place. -/
theorem bytes_put_block (prim : Primitives) (keys : Keys) (aes : AesState) (buffer : SendBuffer)
    {length : Nat} (long : 16 ≤ length) :
    (aesEcbEncrypt prim keys aes (buffer.bytes 0 length)).2 =
        (aesEcbEncrypt prim keys aes (buffer.bytes 0 16)).2 ∧
      (buffer.put 0 (aesEcbEncrypt prim keys aes (buffer.bytes 0 16)).1).bytes 0 length =
        (aesEcbEncrypt prim keys aes (buffer.bytes 0 length)).1 := by
  have start := buffer.take_bytes 0 long
  have rest := buffer.drop_bytes 0 long
  have block : blockOf 16 (buffer.bytes 0 length) = blockOf 16 (buffer.bytes 0 16) := by
    apply Vector.toList_inj.mp
    rw [BlockModes.blockOf_toList _ (by simpa using long), start,
      BlockModes.blockOf_toList _ (by simp), List.take_of_length_le (by simp)]
  refine ⟨rfl, ?_⟩
  have behind : (buffer.bytes 0 16).drop 16 = [] := List.drop_of_length_le (by simp)
  simp only [aesEcbEncrypt, behind, List.append_nil, block, rest]
  have parts := buffer.bytes_put_inside 0 0 (length - 16)
    (prim.aesEncrypt (aes.ecbEncrypt.use (cipherBlock keys.cipherKeyEncrypt)).1
      (blockOf 16 (buffer.bytes 0 16))).toList
  rw [Vector.length_toList, show 0 + 16 + (length - 16) = length by omega] at parts
  exact parts

/-- The length before a message and its obfuscation. -/
theorem groSealInto_refines {buffer : SendBuffer} {len : Nat} (long : 16 ≤ len)
    (fits : len + 2 ≤ bufLen) :
    Refines SendFault.fault (fun got frame => frame = got.1.bytes 0 got.2 ∧ got.2 = len + 2)
      (groSealInto options buffer len)
      (groSeal options (BigEndian.encode 2 (buffer.bytes 2 len).length ++ buffer.bytes 2 len)) := by
  have size : bufLen = 2200 := rfl
  have two := BigEndian.encode_length 2 len
  refine .bind_left (shortLen_ok (by omega)) (.bind_left (SendBuffer.copy_ok _ (by omega))
    (.bind_left (intLen_ok (by omega)) ?_))
  rw [Buffer.length_bytes]
  have framed : (buffer.put 0 (BigEndian.encode 2 len)).bytes 0 (len + 2) =
      BigEndian.encode 2 len ++ buffer.bytes 2 len := by
    have own := buffer.bytes_put 0 (BigEndian.encode 2 len)
    rw [two] at own
    rw [Nat.add_comm, Buffer.bytes_add, own, Buffer.bytes_put_behind _ (by omega)]
  rw [← framed]
  unfold groSeal
  cases options.crypto.cipher with
  | none => exact .pure ⟨rfl, rfl⟩
  | xor =>
    refine .bind_left (SendBuffer.copy_ok _ (show 0 + 1 ≤ bufLen by omega))
      (.bind_left (SendBuffer.copy_ok _ (show 1 + 1 ≤ bufLen by omega)) (.pure ⟨?_, rfl⟩))
    exact (bytes_put_twice (buffer.put 0 (BigEndian.encode 2 len))
      (fun place => options.keys.groXor.toList.getD place 0) (len + 2)).symm
  | aes128cbc | aes128cfb =>
    refine .bind .get ?_
    rintro machine _ rfl
    have block := bytes_put_block options.prim options.keys machine.aes
      (buffer.put 0 (BigEndian.encode 2 len)) (show 16 ≤ len + 2 by omega)
    have short : (aesEcbEncrypt options.prim options.keys machine.aes
        ((buffer.put 0 (BigEndian.encode 2 len)).bytes 0 16)).1.length = 16 := by
      simp [aesEcbEncrypt]
    dsimp only
    rw [block.1]
    refine .bind (.set _) fun _ _ _ =>
      .bind_left (SendBuffer.copy_ok _ (by omega)) (.pure ⟨?_, rfl⟩)
    exact block.2.symm

/-- A frame of a message. -/
theorem frameInto_refines {buffer : SendBuffer} {len : Nat} (long : 16 ≤ len)
    (fits : len + 2 ≤ bufLen) :
    Refines SendFault.fault (fun got frame => frame = got.1.bytes 0 got.2 ∧ got.2 ≤ len + 2)
      (frameInto options buffer len)
      (saferFrame options (buffer.bytes (if options.fixGro then 2 else 0) len)) := by
  unfold frameInto saferFrame
  by_cases gro : options.fixGro = true
  · simp only [if_pos gro]
    exact fun state => (groSealInto_refines long fits state).weaken fun _ _ same =>
      ⟨⟨same.1.1, Nat.le_of_eq same.1.2⟩, same.2⟩
  · simp only [if_neg gro]
    exact .pure ⟨rfl, Nat.le_add_right _ _⟩

variable {conn : ConnInfo options σ τ} {data : Bytes}

/-- `send_safer` for data with room for its header. -/
theorem sendSaferInto_refines (type : UInt8) (fits : data.length + 18 ≤ bufLen) :
    Refines SendFault.fault Eq (sendSaferInto memory conn type data)
      (sendSafer conn type data) := by
  unfold sendSaferInto sendSafer
  by_cases wrong : type ≠ typeHeartbeat ∧ type ≠ typeData
  · rw [if_pos wrong, if_pos wrong]
    exact .pure rfl
  rw [if_neg wrong, if_neg wrong]
  refine .bind (lower_refines (liftM conn.theBlob)) ?_
  rintro blob _ rfl
  refine .bind_left (saferMessageInto_ok memory _ _ _ _ _ fits) ?_
  have near : (if options.fixGro then 2 else 0) ≤ 2 := by split <;> decide
  refine .bind (encryptMessageInto_refines memory _ _ near) fun got output holds => ?_
  obtain ⟨buf2, len⟩ := got
  obtain ⟨rfl, bound⟩ := holds
  cases len with
  | none => exact .pure rfl
  | some len =>
    have size : bufLen = maxDataLen + 400 := rfl
    have bounds := bound len rfl
    rw [saferMessage_length] at bounds
    refine .bind (frameInto_refines (by omega) (by omega)) fun got frame framed => ?_
    obtain ⟨buf2, newLen⟩ := got
    obtain ⟨rfl, short⟩ := framed
    have room : (buf2.bytes 0 newLen).length + 80 ≤ bufLen := by
      rw [Buffer.length_bytes]
      have longer : newLen ≤ len + 2 := short
      omega
    refine .bind (sendRawPayloadInto_refines memory _ room) ?_
    rintro ⟨rawInfo, ret⟩ _ rfl
    dsimp only
    split
    · exact .pure rfl
    · refine .bind (lower_refines ask) ?_
      rintro answer _ rfl
      exact .pure rfl

end

/-! ### The send path -/

/-- With its buffers a program does what it does without them: it never stops over an overflow. -/
def InBounds {α : Type} (buffered : SendProc v α) (program : Proc v α) : Prop :=
  buffered = lower program ∧
    ∀ machine, Stops buffered machine fun fault => ∃ reason, fault = .fault reason

/-- A program that refines the one without buffers stays in its bounds. -/
theorem inBounds_of_refines {α : Type} {buffered : SendProc v α} {program : Proc v α}
    (refines : Refines SendFault.fault Eq buffered program) : InBounds buffered program :=
  ⟨refines.eq_embedded, refines.stops⟩

/-- The send path stays in its buffers: for a datagram that the handlers of either side read, for a
heartbeat of every allowed length, for a handshake and for a segment without a payload, in every
mode. -/
theorem send_inBounds (options : Options v) (memory : Nat → UInt8) :
    (∀ (conn : ConnInfo options σ τ) (data : Bytes) (convNum : UInt32), data.length ≤ maxDataLen →
      InBounds (sendDataSaferInto memory conn data convNum) (sendDataSafer conn data convNum)) ∧
      (options.hbBuf.length ≤ 1500 → ∀ conn : ConnInfo options σ τ,
        InBounds (sendHeartbeatInto memory conn) (sendHeartbeat conn)) ∧
      (∀ (raw : RawInfo options.raw) (id1 id2 id3 : UInt32),
        InBounds (sendHandshakeInto options memory raw id1 id2 id3)
          (sendHandshake options raw id1 id2 id3)) ∧
      ∀ raw : RawInfo options.raw,
        InBounds (sendRawPayloadInto options memory raw []) (sendRawPayload options raw []) := by
  have size : bufLen = maxDataLen + 400 := rfl
  have limit : maxDataLen = 1800 := rfl
  refine ⟨fun conn data convNum short => ?_, fun short conn => ?_, fun raw id1 id2 id3 => ?_,
    fun raw => ?_⟩
  · refine inBounds_of_refines (.bind (lower_refines (record _)) fun _ _ _ =>
      .bind_left (dataInto_ok memory convNum (by omega)) ?_)
    have room : (BigEndian.encode 4 convNum.toNat ++ data).length + 18 ≤ bufLen := by
      rw [List.length_append, BigEndian.encode_length]
      omega
    refine .bind (sendSaferInto_refines memory typeData room) ?_
    rintro sent _ rfl
    exact .pure rfl
  · have room : (match options.hbMode with
        | .data => []
        | .heartbeat => options.hbBuf).length + 18 ≤ bufLen := by
      cases options.hbMode with
      | data => exact show 0 + 18 ≤ bufLen by omega
      | heartbeat => exact show options.hbBuf.length + 18 ≤ bufLen by omega
    refine inBounds_of_refines (.bind (sendSaferInto_refines memory typeHeartbeat room) ?_)
    rintro sent _ rfl
    exact .pure rfl
  · refine inBounds_of_refines (.bind_left (numbersToCharInto_ok memory id1 id2 id3) ?_)
    have room : (numbersToChar id1 id2 id3).length + 17 ≤ bufLen := by
      simp only [numbersToChar, List.length_append, BigEndian.encode_length]
      omega
    refine .bind (sendBareInto_refines memory raw room) ?_
    rintro sent _ rfl
    exact .pure rfl
  · exact inBounds_of_refines
      (sendRawPayloadInto_refines memory raw (show 0 + 80 ≤ bufLen by omega))

end Udp2raw
