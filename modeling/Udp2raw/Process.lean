import Udp2raw.Data.Program
import Udp2raw.Encrypt
import Udp2raw.Network.Peer

/-!
# A running process

The part of a process that both roles share: the answers of the system, the static
variables of the modules below the connections, and a record of what the process did. The
system's answers are an arbitrary sequence; each question takes the next one. The record
is read by no function: it is what the properties of a whole run talk about.
-/
namespace Udp2raw

/-- `address_t` for the local peers of a client, as the bytes of its socket address. -/
abbrev LocalAddress := Bytes

/-- A number from `get_true_random_number_nz`. -/
abbrev NonZero := { number : UInt32 // number ≠ 0 }

/-- The options that the connection layer reads. -/
structure Options (v : IpVersion) where
  /-- The options of the raw packet layer. -/
  raw : RawConfig v
  /-- The library functions under the encryption. -/
  prim : Primitives
  /-- The modes of the encryption. -/
  crypto : CryptoMode
  /-- The keys. -/
  keys : Keys
  /-- `g_fix_gro`. -/
  fixGro : Bool
  /-- `hb_mode`. -/
  hbMode : HbMode
  /-- The first `hb_len` bytes of `hb_buf`. -/
  hbBuf : Bytes
  /-- `disable_anti_replay`. -/
  disableAntiReplay : Bool
  /-- `const_id`. -/
  constId : UInt32
  /-- `use_tcp_dummy_socket`. -/
  useTcpDummySocket : Bool

/-- A raw layer that is not disabled needs no limit. -/
theorem Options.enabledAllowed (options : Options v) :
    false = true → 0 ≤ options.raw.maxRstAllowed := by simp

/-- A raw layer that is disabled has a limit. -/
theorem Options.stillAllowed (options : Options v) (raw : RawInfo options.raw) :
    raw.disabled = true → 0 ≤ options.raw.maxRstAllowed := raw.disabledAllowed

/-- One answer of the system. A question reads only the field it is about. -/
structure Answer (v : IpVersion) where
  /-- `ev_time`, in microseconds. -/
  rawTime : Nat
  /-- `get_true_random_number`. -/
  word : UInt32
  /-- `get_true_random_number_64`. -/
  word64 : UInt64
  /-- `get_true_random_number_nz`. -/
  nonzero : NonZero
  /-- The numbers that `get_new_conv` draws until one is unused. -/
  draws : List NonZero
  /-- The answers during a send. -/
  send : SendEnv
  /-- The content of memory that is not initialised: bytes, -/
  junk : Nat → UInt8
  /-- packet metadata, -/
  info : PacketInfo v
  /-- an anti-replay window, -/
  window : Vector UInt8 antiReplayWindowSize
  /-- and a number. -/
  number : Nat
  /-- Whether a system call succeeds. -/
  ok : Bool
  /-- The descriptor that a system call creates, never one that is still open. -/
  descriptor : (opened : List Nat) → Option { fd : Nat // fd ∉ opened }
  /-- Where a hash table puts a new entry. -/
  position : Nat
  /-- The local address that `getsockname` finds. -/
  sockname : Ip v

/-- A party of the tunnel. The clients are told apart by their `const_id`. -/
inductive Party where
  | server
  | client (constId : UInt32)
  deriving DecidableEq

/-- What a process did. -/
inductive Event (v : IpVersion) where
  /-- `send_raw0` was called with this payload. -/
  | rawPayload (payload : Bytes)
  /-- `my_encrypt` turned a message into an output. -/
  | encrypted (message output : Bytes)
  /-- `my_encrypt` returned an error for a message. -/
  | refused (message : Bytes)
  /-- `my_decrypt` accepted an input as a message. -/
  | decrypted (input message : Bytes)
  /-- A session identifier was drawn. -/
  | drewMyId (myId : UInt32)
  /-- The anti-replay window of a session accepted a number. -/
  | accepted (myId oppsiteId : UInt32) (seq : UInt64)
  /-- `send_data_safer` was called. -/
  | sendDataSafer (myId oppsiteId : UInt32) (conv : UInt32) (bytes : Bytes)
  /-- The server got an initial handshake from a new address and drew an identifier for its
  entry. -/
  | created (addr : Address v) (myId : UInt32)
  /-- The server made a connection ready at an address. -/
  | becameReady (constId : UInt32) (addr : Address v) (myId oppsiteId : UInt32)
  /-- The server moved a ready connection to an address. -/
  | moved (constId : UInt32) (addr : Address v) (myId oppsiteId : UInt32)
  /-- The server opened a socket for a conversation of a client. -/
  | openedSocket (constId conv : UInt32) (socket : Nat)
  /-- The server read a datagram from a socket. -/
  | readSocket (socket : Nat) (bytes : Bytes)
  /-- The server wrote a datagram to a socket, from a message with these numbers. -/
  | wroteSocket (socket : Nat) (bytes : Bytes) (myId : UInt32) (seq : UInt64)
  /-- The client entered a state. -/
  | entered (state : ClientState)
  /-- The client accepted the response to its first handshake. -/
  | answered (myId oppsiteId : UInt32)
  /-- The client sent the second handshake of a session. -/
  | handshake2 (myId oppsiteId : UInt32)
  /-- The client created a conversation for a local address. -/
  | createdConv (conv : UInt32) (addr : LocalAddress)
  /-- The client received a datagram from a local address. -/
  | received (addr : LocalAddress) (bytes : Bytes)
  /-- The client sent a datagram to a local address, from a message with these numbers. -/
  | sentTo (addr : LocalAddress) (bytes : Bytes) (myId : UInt32) (seq : UInt64)
  deriving DecidableEq

/-- What the parties did, in order. -/
abbrev Log (v : IpVersion) := List (Party × Event v)

/-- A static buffer. -/
abbrev Scratch := Nat → UInt8

namespace Scratch

/-- The buffer after bytes are written from its start. -/
def write (buffer : Scratch) (bytes : Bytes) : Scratch := fun place =>
  bytes.getD place (buffer place)

/-- The bytes of a range. -/
def read (buffer : Scratch) (offset length : Nat) : Bytes :=
  (List.range length).map fun place => buffer (offset + place)

/-- A range has its length. -/
@[simp] theorem read_length (buffer : Scratch) (offset length : Nat) :
    (buffer.read offset length).length = length := by simp [read]

/-- A part of a range is a range. -/
theorem read_drop (buffer : Scratch) (offset length skipped : Nat) :
    (buffer.read offset length).drop skipped =
      buffer.read (offset + skipped) (length - skipped) := by
  apply List.ext_getElem
  · simp
  · intro place left right
    simp [read, Nat.add_assoc]

/-- The start of a range is a range. -/
theorem read_take (buffer : Scratch) (offset : Nat) {length kept : Nat} (inside : kept ≤ length) :
    (buffer.read offset length).take kept = buffer.read offset kept := by
  apply List.ext_getElem
  · simp [inside]
  · intro place left right
    simp [read]

/-- Written bytes are read back. -/
theorem read_write (buffer : Scratch) {bytes : Bytes} {length : Nat}
    (inside : length ≤ bytes.length) : (buffer.write bytes).read 0 length = bytes.take length := by
  apply List.ext_getElem
  · simp [inside]
  · intro place left right
    have covered : place < bytes.length := by
      simp only [read_length] at left
      omega
    simp [read, write, List.getElem?_eq_getElem covered]

end Scratch

/-- The shared state of a process. -/
structure Machine (v : IpVersion) where
  /-- Whose process this is. -/
  self : Party
  /-- The answers of the system. -/
  answers : Nat → Answer v
  /-- How many of them were taken. -/
  asked : Nat
  /-- `value_fix` of the clock. -/
  valueFix : Nat
  /-- `largest_value` of the clock. -/
  largestValue : Nat
  /-- The static key schedules. -/
  aes : AesState
  /-- The static buffer of `reserved_parse_bare`. -/
  bareBuf : Scratch
  /-- The static buffer of `reserved_parse_safer`. -/
  saferBuf : Scratch
  /-- `g_packet_buf` and `g_packet_buf_len`. -/
  packetBuf : Capture
  /-- `g_packet_buf_cnt`. -/
  packetBufCnt : Nat
  /-- `filter_port`. -/
  filterPort : UInt16
  /-- The packets that this process handed to the system. -/
  wire : List Bytes
  /-- What all parties did so far. -/
  log : Log v

variable {v : IpVersion}

/-- A process that starts. -/
def Machine.start (self : Party) (answers : Nat → Answer v) (filterPort : UInt16) : Machine v where
  self
  answers
  asked := 0
  valueFix := 0
  largestValue := 0
  aes := .initial
  bareBuf := fun _ => 0
  saferBuf := fun _ => 0
  packetBuf := ⟨[], fun _ => 0⟩
  packetBufCnt := 0
  filterPort
  wire := []
  log := []

/-- A function of the shared layers. -/
abbrev Proc (v : IpVersion) := Program Fault (Machine v)

namespace Proc

/-- Take the system's next answer. -/
def ask : Proc v (Answer v) := do
  let machine ← get
  set { machine with asked := machine.asked + 1 }
  return machine.answers machine.asked

/-- Note what the process did. -/
def record (event : Event v) : Proc v Unit :=
  modify fun machine => { machine with log := machine.log ++ [(machine.self, event)] }

/-- `assert(condition)`. -/
def check (condition : Bool) (text : String) : Proc v Unit := liftM (assert condition text)

end Proc

open Proc

/-- `get_current_time_us`: a clock that jumps back is corrected from then on. -/
def getCurrentTimeUs : Proc v Nat := do
  let answer ← ask
  let machine ← get
  let fixedValue := answer.rawTime + machine.valueFix
  if fixedValue < machine.largestValue then do
    let valueFix := machine.valueFix + (machine.largestValue - fixedValue)
    set { machine with valueFix }
    return answer.rawTime + valueFix
  else do
    set { machine with largestValue := fixedValue }
    return fixedValue

/-- `get_current_time`, in milliseconds. -/
def getCurrentTime : Proc v Nat := do
  return (← getCurrentTimeUs) / 1000

/-- The difference of two times, in the unsigned arithmetic of sixty-four bits. -/
def elapsed (now earlier : Nat) : Nat := (now + (2 ^ 64 - earlier % 2 ^ 64)) % 2 ^ 64

/-- `get_true_random_number`. -/
def getTrueRandomNumber : Proc v UInt32 := do
  return (← ask).word

/-- `get_true_random_number_64`. -/
def getTrueRandomNumber64 : Proc v UInt64 := do
  return (← ask).word64

/-- `get_true_random_number_nz`, for a session identifier. -/
def drawMyId : Proc v UInt32 := do
  let myId := (← ask).nonzero.val
  record (.drewMyId myId)
  return myId

/-- The constructor of `packet_info_t`. -/
def newPacketInfo (options : Options v) : Proc v (PacketInfo v) := do
  let memory := (← ask).info
  let ackDraw ← getTrueRandomNumber
  let seqDraw ← getTrueRandomNumber
  return PacketInfo.new options.raw.rawMode seqDraw ackDraw memory

/-- The constructor of `raw_info_t`. -/
def newRawInfo (options : Options v) : Proc v (RawInfo options.raw) := do
  let sendInfo ← newPacketInfo options
  let recvInfo ← newPacketInfo options
  return {
    sendInfo, recvInfo
    peek := false
    reservedSendSeq := (← ask).word
    rstReceived := 0
    disabled := false
    disabledAllowed := options.enabledAllowed }

/-- `pre_recv_raw_packet`, with the result of its `recvfrom`: `none` for an error. -/
def preRecvRawPacket (options : Options v) (received : Option Capture) : Proc v Int := do
  check ((← get).packetBufCnt = 0) "g_packet_buf_cnt == 0"
  match received with
  | none => return -1
  | some capture =>
    let length := min capture.packet.length (hugeDataLen + 1)
    if length = hugeDataLen + 1 ∧ options.fixGro = false then return -1
    else
      let capture := capture.truncate (min length hugeDataLen)
      if maxDataLen + 1 ≤ capture.packet.length ∧ options.fixGro = false then return -1
      else do
        modify fun machine => { machine with packetBuf := capture, packetBufCnt := 1 }
        return 0

/-- `discard_raw_packet`. -/
def discardRawPacket : Proc v Unit := do
  check ((← get).packetBufCnt = 1) "g_packet_buf_cnt == 1"
  modify fun machine => { machine with packetBufCnt := 0 }

/-- `recv_raw0` on the buffered packet; `none` is a negative return. A zero return that leaves
the payload of the caller unset has no defined continuation. -/
def recvRawPayload (options : Options v) (raw : RawInfo options.raw) :
    Proc v (RawInfo options.raw × Option Bytes) := do
  let machine ← get
  check (machine.packetBufCnt = 1) "g_packet_buf_cnt == 1"
  modify fun machine => { machine with packetBufCnt := if raw.peek then 1 else 0 }
  match recvRaw0 options.raw machine.filterPort machine.packetBuf raw with
  | (raw, .failed) => return (raw, none)
  | (_, .untouched) => throw (.undefined "data")
  | (raw, .payload segment) => return (raw, some (machine.packetBuf.segment segment))

/-- `peek_raw` on the buffered packet. -/
def peekRawPacket (options : Options v) (raw : RawInfo options.raw) :
    Proc v (RawInfo options.raw × Bool) := do
  let machine ← get
  check (machine.packetBufCnt = 1) "g_packet_buf_cnt == 1"
  return peekRaw options.raw machine.packetBuf raw

/-- The time that a segment carries; only TCP has one. -/
def segmentTime (options : Options v) : Proc v Nat :=
  if options.raw.rawMode = .faketcp then getCurrentTime else pure 0

/-- `send_raw0`. -/
def sendRawPayload (options : Options v) (raw : RawInfo options.raw) (payload : Bytes) :
    Proc v (RawInfo options.raw × Int) := do
  record (.rawPayload payload)
  let env := (← ask).send
  let now ← segmentTime options
  let sent ← liftM (sendRaw0 options.raw { env with now } raw payload)
  modify fun machine => { machine with wire := machine.wire ++ sent.packet.toList }
  return (sent.raw, sent.ret)

/-- `my_encrypt`; `none` is an error return. -/
def encryptMessage (options : Options v) (message : Bytes) : Proc v (Option Bytes) := do
  let junk := (← ask).junk
  let machine ← get
  let (output, aes) ←
    liftM (myEncrypt options.prim options.crypto options.keys junk machine.aes message)
  set { machine with aes }
  match output with
  | none => do
    record (.refused message)
    return none
  | some output => do
    record (.encrypted message output)
    return some output

/-- `my_decrypt` into a static buffer: the buffer after it and the length, or `none` for an error
return. -/
def decryptInto (options : Options v) (buffer : Scratch) (input : Bytes) :
    Proc v (Scratch × Option Nat) := do
  let machine ← get
  let decrypted := myDecrypt options.prim options.crypto options.keys machine.aes input
  set { machine with aes := decrypted.2 }
  let buffer := buffer.write decrypted.1.written
  match decrypted.1.len with
  | none => return (buffer, none)
  | some len => do
    record (.decrypted input (buffer.read 0 len))
    return (buffer, some len)

end Udp2raw
