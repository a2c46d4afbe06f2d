import Udp2raw.Connection.Info

/-!
# Messages on a connection

The two formats of a message. A bare message opens a session: two random words, the mark
`b` and the data. A safer message belongs to a session: the identifiers of both ends, a
number for the anti-replay window, a type, a roller and the data. Several safer messages
may arrive glued together, so with `fix_gro` each one carries its obfuscated length.
-/
namespace Udp2raw

open Proc
open BlockModes (blockOf)

variable {v : IpVersion} {σ τ : Type} [DecidableEq τ]

/-- The mark of a bare message. -/
def bareMark : UInt8 := 98
/-- The type of a heartbeat. -/
def typeHeartbeat : UInt8 := 104
/-- The type of a message with data. -/
def typeData : UInt8 := 100

/-- A number as it lies in memory. -/
def memoryBytes (number : UInt64) : Bytes := (BigEndian.encode 8 number.toNat).reverse

/-- The plaintext of a bare message. -/
def bareMessage (iv padding : UInt64) (data : Bytes) : Bytes :=
  memoryBytes iv ++ memoryBytes padding ++ bareMark :: data

/-- The plaintext of a safer message. -/
def saferMessage (myId oppsiteId : UInt32) (seq : UInt64) (type roller : UInt8) (data : Bytes) :
    Bytes :=
  BigEndian.encode 4 myId.toNat ++ BigEndian.encode 4 oppsiteId.toNat ++
    BigEndian.encode 8 seq.toNat ++ type :: roller :: data

/-- `numbers_to_char`. -/
def numbersToChar (id1 id2 id3 : UInt32) : Bytes :=
  BigEndian.encode 4 id1.toNat ++ BigEndian.encode 4 id2.toNat ++ BigEndian.encode 4 id3.toNat

/-- The identifier at an offset of received data. -/
def idAt (data : Bytes) (offset : Nat) : UInt32 :=
  UInt32.ofNat (BigEndian.decode ((data.drop offset).take 4))

/-- `send_bare`. -/
def sendBare (options : Options v) (raw : RawInfo options.raw) (data : Bytes) :
    Proc v (RawInfo options.raw × Int) := do
  let iv ← getTrueRandomNumber64
  let padding ← getTrueRandomNumber64
  match ← encryptMessage options (bareMessage iv padding data) with
  | none => return (raw, -1)
  | some output => do
    let (raw, _) ← sendRawPayload options raw output
    return (raw, 0)

/-- `reserved_parse_bare`; `none` is an error return. -/
def reservedParseBare (options : Options v) (input : Bytes) : Proc v (Option Bytes) := do
  let (buffer, len) ← decryptInto options (← get).bareBuf input
  modify fun machine => { machine with bareBuf := buffer }
  match len with
  | none => return none
  | some len =>
    if buffer 16 ≠ bareMark then return none
    else if len < 17 then return none
    else return some (buffer.read 17 (len - 17))

/-- `recv_bare`; `none` is an error return. -/
def recvBare (options : Options v) (raw : RawInfo options.raw) :
    Proc v (RawInfo options.raw × Option Bytes) := do
  let (raw, payload) ← recvRawPayload options raw
  match payload with
  | none => return (raw, none)
  | some payload =>
    if maxDataLen + 1 ≤ payload.length then return (raw, none)
    else if options.raw.rawMode = .faketcp ∧
        (raw.recvInfo.syn = true ∨ raw.recvInfo.ack = false) then return (raw, none)
    else return (raw, ← reservedParseBare options payload)

/-- `send_handshake`. -/
def sendHandshake (options : Options v) (raw : RawInfo options.raw) (id1 id2 id3 : UInt32) :
    Proc v (RawInfo options.raw) := do
  return (← sendBare options raw (numbersToChar id1 id2 id3)).1

/-- The first block of a frame after `send_safer` obfuscates it. -/
def groSeal (options : Options v) (frame : Bytes) : Proc v Bytes :=
  match options.crypto.cipher with
  | .none => return frame
  | .xor =>
    return frame.zipIdx.map fun (byte, place) =>
      if place < 2 then byte ^^^ options.keys.groXor.toList.getD place 0 else byte
  | .aes128cbc | .aes128cfb => do
    let machine ← get
    let sealed := aesEcbEncrypt options.prim options.keys machine.aes frame
    set { machine with aes := sealed.2 }
    return sealed.1

/-- The first block of a frame after `recv_safer_multi` uncovers it. -/
def groOpen (options : Options v) (block : AesBlock) : Proc v AesBlock :=
  match options.crypto.cipher with
  | .none => return block
  | .xor =>
    return Vector.ofFn fun place : Fin 16 =>
      if place.val < 2 then block.get place ^^^ options.keys.groXor.toList.getD place.val 0
      else block.get place
  | .aes128cbc | .aes128cfb => do
    let machine ← get
    let opened := aesEcbDecrypt options.prim options.keys machine.aes block.toList
    set { machine with aes := opened.2 }
    return blockOf 16 opened.1

/-- What `send_safer` sends for a ciphertext. -/
def saferFrame (options : Options v) (output : Bytes) : Proc v Bytes :=
  if options.fixGro then groSeal options (BigEndian.encode 2 output.length ++ output)
  else return output

/-- `send_safer`. -/
def sendSafer {options : Options v} (conn : ConnInfo options σ τ) (type : UInt8) (data : Bytes) :
    Proc v (ConnInfo options σ τ × Int) :=
  if type ≠ typeHeartbeat ∧ type ≠ typeData then return (conn, -1)
  else do
    let blob ← liftM conn.theBlob
    let (seq, antiReplay) := blob.antiReplay.getNewSeqForSend
    let conn := conn.withAntiReplay blob antiReplay
    match ← encryptMessage options
      (saferMessage conn.myId conn.oppsiteId seq type conn.myRoller data) with
    | none => return (conn, -1)
    | some output => do
      let frame ← saferFrame options output
      let (rawInfo, ret) ← sendRawPayload options conn.rawInfo frame
      let conn := { conn with rawInfo }
      if ret ≠ 0 then return (conn, -1)
      else do
        let env := (← ask).send
        return ({ conn with rawInfo := afterSendRaw0 env conn.rawInfo }, 0)

/-- `send_data_safer`. -/
def sendDataSafer {options : Options v} (conn : ConnInfo options σ τ) (data : Bytes)
    (convNum : UInt32) : Proc v (ConnInfo options σ τ) := do
  record (.sendDataSafer conn.myId conn.oppsiteId convNum data)
  return (← sendSafer conn typeData (BigEndian.encode 4 convNum.toNat ++ data)).1

/-- The heartbeat of a `hb_mode`. -/
def sendHeartbeat {options : Options v} (conn : ConnInfo options σ τ) :
    Proc v (ConnInfo options σ τ) := do
  let data :=
    match options.hbMode with
    | .data => []
    | .heartbeat => options.hbBuf
  return (← sendSafer conn typeHeartbeat data).1

/-- A received safer message. Its number is kept for the record only. -/
structure Frame where
  /-- Its number. -/
  seq : UInt64
  /-- Its type. -/
  type : UInt8
  /-- Its data. -/
  data : Bytes
  deriving DecidableEq

/-- A roller that moved is remembered with the time. -/
def ConnInfo.noteRoller {options : Options v} (conn : ConnInfo options σ τ) (roller : UInt8) :
    Proc v (ConnInfo options σ τ) :=
  if roller ≠ conn.oppsiteRoller then do
    return { conn with oppsiteRoller := roller, lastOppsiteRollerTime := ← getCurrentTime }
  else return conn

/-- What a good message of a type does to the connection. -/
def ConnInfo.receive {options : Options v} (conn : ConnInfo options σ τ) (type : UInt8) :
    ConnInfo options σ τ :=
  let myRoller :=
    match options.hbMode with
    | .data => conn.myRoller + 1
    | .heartbeat => if type = typeHeartbeat then conn.myRoller + 1 else conn.myRoller
  { conn with myRoller, rawInfo := afterRecvRaw0 conn.rawInfo }

/-- `reserved_parse_safer`; `none` is an error return. -/
def reservedParseSafer {options : Options v} (conn : ConnInfo options σ τ) (input : Bytes) :
    Proc v (ConnInfo options σ τ × Option Frame) := do
  let (buffer, len) ← decryptInto options (← get).saferBuf input
  modify fun machine => { machine with saferBuf := buffer }
  match len with
  | none => return (conn, none)
  | some len => do
    let header := buffer.read 0 16
    let hSeq := UInt64.ofNat (BigEndian.decode (header.drop 8))
    if idAt header 0 ≠ conn.oppsiteId ∨ idAt header 4 ≠ conn.myId then return (conn, none)
    else do
      let blob ← liftM conn.theBlob
      let (valid, antiReplay) := blob.antiReplay.isVaild options.disableAntiReplay hSeq
      if valid = false then return (conn, none)
      else do
        record (.accepted conn.myId conn.oppsiteId hSeq)
        let conn := conn.withAntiReplay blob antiReplay
        let type := buffer 16
        if type ≠ typeHeartbeat ∧ type ≠ typeData then return (conn, none)
        else if len < 18 then return (conn, none)
        else do
          let conn ← conn.noteRoller (buffer 17)
          return (conn.receive type, some ⟨hSeq, type, buffer.read 18 (len - 18)⟩)

/-- The loop of `recv_safer_multi` over the glued messages of one payload. -/
def recvFrames {options : Options v} (conn : ConnInfo options σ τ) (recvData : Bytes) :
    Proc v (ConnInfo options σ τ × List Frame) :=
  if 16 ≤ recvData.length then do
    let block ← groOpen options (blockOf 16 recvData)
    let opened := block.toList ++ recvData.drop 16
    let singleLen := BigEndian.decode (opened.take 2)
    let recvLen := recvData.length - 2
    -- a wrong length ends the loop: what follows cannot be told apart any more
    if recvLen < singleLen then return (conn, [])
    else if maxDataLen < singleLen then return (conn, [])
    else do
      let rest := opened.drop 2
      let (conn, frame) ← reservedParseSafer conn (rest.take singleLen)
      let (conn, frames) ← recvFrames conn (rest.drop singleLen)
      return (conn, frame.toList ++ frames)
  else return (conn, [])
  termination_by recvData.length
  decreasing_by simp only [List.length_drop, List.length_append, Vector.length_toList]; omega

/-- `recv_safer_multi`: the messages of the buffered packet. The callers look at nothing else. -/
def recvSaferMulti {options : Options v} (conn : ConnInfo options σ τ) :
    Proc v (ConnInfo options σ τ × List Frame) := do
  let (rawInfo, payload) ← recvRawPayload options conn.rawInfo
  let conn := { conn with rawInfo }
  match payload with
  | none => return (conn, [])
  | some payload =>
    if options.fixGro = false then do
      let (conn, frame) ← reservedParseSafer conn payload
      return (conn, frame.toList)
    else recvFrames conn payload

end Udp2raw
