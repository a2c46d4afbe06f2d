import Udp2raw.Fault
import Udp2raw.Network.Packet

/-!
# Building raw packets

`send_raw_ip`, the three transport builders above it and the bookkeeping around a packet
that was sent or received. A builder writes its segment with a zero checksum, then stores
the checksum of that; segments are therefore functions of their checksum. What a builder
passes to `send_raw_packet` is part of its result.
-/
namespace Udp2raw

open OnesComplement (word)

variable {v : IpVersion}

/-- The system's answers during one send. -/
structure SendEnv where
  /-- The random number compared with `random_drop`. -/
  dropDraw : UInt32
  /-- `get_current_time()` for the timestamp option. -/
  now : Nat
  /-- The random number in the window field. -/
  windowDraw : UInt32
  /-- The random number of `seq_mode` two. -/
  seqDraw : UInt32
  /-- `g_ip_id_counter`. -/
  ipId : UInt16
  /-- Whether `sendto` succeeds. -/
  sendtoOk : Bool

/-- The effect of a send: the connection after it, the packet passed to `send_raw_packet`, if
any, and the returned value. -/
structure Sent (config : RawConfig v) where
  /-- The connection after the send. -/
  raw : RawInfo config
  /-- The packet. -/
  packet : Option Bytes
  /-- The returned value. -/
  ret : Int

/-- `receive_window_lower_bound`. -/
def receiveWindowLowerBound : UInt32 := 40960
/-- `receive_window_random_range`. -/
def receiveWindowRandomRange : UInt32 := 512
/-- `wscale`. -/
def wscale : UInt8 := 5

/-- The header that `send_raw_ip` puts before a version four payload. -/
def ipv4Header (config : RawConfig .ipv4) (info : PacketInfo .ipv4) (ipId : UInt16)
    (totLen check : Nat) : Bytes :=
  [0x45, 0] ++ BigEndian.encode 2 totLen ++ BigEndian.encode 2 ipId.toNat ++ [0x40, 0] ++
    [config.ttlValue, info.protocol] ++ word check ++ info.newSrcIp.toList ++
    info.newDstIp.toList

/-- The header that `send_raw_ip` puts before a version six payload. -/
def ipv6Header (config : RawConfig .ipv6) (info : PacketInfo .ipv6) (payloadLen : Nat) : Bytes :=
  [0x60, 0, 0, 0] ++ BigEndian.encode 2 payloadLen ++ [info.protocol, config.ttlValue] ++
    info.newSrcIp.toList ++ info.newDstIp.toList

/-- The packet that `send_raw_ip` builds. Without `lower_level` the kernel is left to fill the
length and the checksum of a version four header. -/
def ipPacket (config : RawConfig v) (info : PacketInfo v) (ipId : UInt16) (payload : Bytes) :
    Bytes :=
  match v with
  | .ipv4 =>
    if config.lowerLevel then
      let totLen := IpVersion.headerSize .ipv4 + payload.length
      let check := csum (ipv4Header config info ipId totLen 0)
      ipv4Header config info ipId totLen check ++ payload
    else ipv4Header config info ipId 0 0 ++ payload
  | .ipv6 => ipv6Header config info payload.length ++ payload

/-- `send_raw_ip` and the `send_raw_packet` it ends with. -/
def sendRawIp (config : RawConfig v) (env : SendEnv) (raw : RawInfo config) (payload : Bytes) :
    Exec (Sent config) :=
  if raw.disabled then do
    assert (0 ≤ config.maxRstAllowed) "max_rst_allowed >= 0"
    .ok ⟨raw, none, 0⟩
  else
    let packet := ipPacket config raw.sendInfo env.ipId payload
    .ok ⟨raw, some packet, if env.sendtoOk then 0 else -1⟩

/-- The header length of a TCP segment, in words. -/
def tcpDoff (syn : Bool) : Nat := if syn then 10 else 8

/-- The option bytes of a TCP segment. -/
def tcpOptions (syn : Bool) (ts tsAck : UInt32) : Bytes :=
  let stamps := BigEndian.encode 4 ts.toNat ++ BigEndian.encode 4 tsAck.toNat
  if syn then
    [0x02, 0x04, 0x05, 0xb4, 0x04, 0x02, 0x08, 0x0a] ++ stamps ++ [0x01, 0x03, 0x03, wscale]
  else [0x01, 0x01, 0x08, 0x0a] ++ stamps

/-- The flag byte of a TCP segment. -/
def tcpFlags (info : PacketInfo v) : UInt8 :=
  UInt8.ofNat (2 * info.syn.toNat + 8 * info.psh.toNat + 16 * info.ack.toNat)

/-- The TCP segment that `send_raw_tcp` builds, with a given checksum. -/
def tcpSegment (info : PacketInfo v) (env : SendEnv) (payload : Bytes) (check : Nat) : Bytes :=
  let window := receiveWindowLowerBound + env.windowDraw % receiveWindowRandomRange
  BigEndian.encode 2 info.srcPort.toNat ++ BigEndian.encode 2 info.dstPort.toNat ++
    BigEndian.encode 4 info.seq.toNat ++ BigEndian.encode 4 info.ackSeq.toNat ++
    [UInt8.ofNat (16 * tcpDoff info.syn), tcpFlags info] ++ BigEndian.encode 2 window.toNat ++
    word check ++ [0, 0] ++ tcpOptions info.syn (UInt32.ofNat env.now) info.tsAck ++ payload

/-- The checksum that a builder stores: the one of its segment with a zero there. -/
def segmentChecksum (info : PacketInfo v) (protocol : UInt8) (segment : Nat → Bytes) : Nat :=
  csumWithHeader (pseudoHeader info.newSrcIp info.newDstIp protocol (segment 0).length) (segment 0)

/-- `send_raw_tcp`. -/
def sendRawTcp (config : RawConfig v) (env : SendEnv) (raw : RawInfo config) (payload : Bytes) :
    Exec (Sent config) := do
  let segment := tcpSegment raw.sendInfo env payload
  let sent ← sendRawIp config env raw (segment (segmentChecksum raw.sendInfo ipprotoTcp segment))
  if sent.ret ≠ 0 then .ok { sent with ret := -1 }
  else
    let info := { sent.raw.sendInfo with dataLen := payload.length }
    .ok { sent with raw := { sent.raw with sendInfo := info } }

/-- The UDP datagram that `send_raw_udp` builds, with a given checksum. -/
def udpSegment (info : PacketInfo v) (payload : Bytes) (check : Nat) : Bytes :=
  BigEndian.encode 2 info.srcPort.toNat ++ BigEndian.encode 2 info.dstPort.toNat ++
    BigEndian.encode 2 (payload.length + udpHeaderSize) ++ word check ++ payload

/-- `send_raw_udp`. -/
def sendRawUdp (config : RawConfig v) (env : SendEnv) (raw : RawInfo config) (payload : Bytes) :
    Exec (Sent config) :=
  if 65535 < payload.length + udpHeaderSize then .ok ⟨raw, none, -1⟩
  else do
    let segment := udpSegment raw.sendInfo payload
    let sent ← sendRawIp config env raw (segment (segmentChecksum raw.sendInfo ipprotoUdp segment))
    if sent.ret ≠ 0 then .ok { sent with ret := -1 } else .ok sent

/-- The type of the echo packets that a side sends: requests at the client, replies at the
server. -/
def sentIcmpType (v : IpVersion) (programMode : ProgramMode) : UInt8 :=
  match v, programMode with
  | .ipv4, .client => 8
  | .ipv4, .server => 0
  | .ipv6, .client => 128
  | .ipv6, .server => 129

/-- The echo packet that `send_raw_icmp` builds, with a given checksum. -/
def icmpSegment (config : RawConfig v) (info : PacketInfo v) (payload : Bytes) (check : Nat) :
    Bytes :=
  [sentIcmpType v config.programMode, 0] ++ word check ++ BigEndian.encode 2 info.srcPort.toNat ++
    BigEndian.encode 2 info.myIcmpSeq.toNat ++ payload

/-- The checksum that `send_raw_icmp` stores. -/
def icmpSegmentChecksum (info : PacketInfo v) (segment : Nat → Bytes) : Nat :=
  match v with
  | .ipv4 => csum (segment 0)
  | .ipv6 => segmentChecksum info (IpVersion.icmpProtocol .ipv6) segment

/-- `send_raw_icmp`. -/
def sendRawIcmp (config : RawConfig v) (env : SendEnv) (raw : RawInfo config) (payload : Bytes) :
    Exec (Sent config) := do
  let segment := icmpSegment config raw.sendInfo payload
  let sent ← sendRawIp config env raw (segment (icmpSegmentChecksum raw.sendInfo segment))
  if sent.ret ≠ 0 then .ok { sent with ret := -1 } else .ok sent

/-- `send_raw0`. -/
def sendRaw0 (config : RawConfig v) (env : SendEnv) (raw : RawInfo config) (payload : Bytes) :
    Exec (Sent config) :=
  if config.randomDrop ≠ 0 ∧ env.dropDraw % 10000 < config.randomDrop then .ok ⟨raw, none, 0⟩
  else
    match config.rawMode with
    | .faketcp => sendRawTcp config env raw payload
    | .udp => sendRawUdp config env raw payload
    | .icmp => sendRawIcmp config env raw payload

/-- `larger_than_u32`: the signed distance is positive. -/
def largerThanU32 (left right : UInt32) : Bool := 0 < (left - right).toInt32

/-- `larger_than_u16`. -/
def largerThanU16 (left right : UInt16) : Bool := 0 < (left - right).toInt16

/-- The sequence number that the window modes go on with, and the repeat counter after it. -/
def windowedSeq (window : UInt32) (recvInfo : PacketInfo v) (seq : UInt32) : UInt32 × UInt32 :=
  let seq :=
    if largerThanU32 (seq + UInt32.ofNat maxDataLen) (recvInfo.ackSeq + window) then recvInfo.ackSeq
    else seq
  let (seq, counter) :=
    if 3 ≤ recvInfo.ackSeqCounter then (recvInfo.ackSeq, 0) else (seq, recvInfo.ackSeqCounter)
  (if largerThanU32 recvInfo.ackSeq seq then recvInfo.ackSeq else seq, counter)

/-- `after_send_raw0`. -/
def afterSendRaw0 {config : RawConfig v} (env : SendEnv) (raw : RawInfo config) :
    RawInfo config :=
  let info := raw.sendInfo
  match config.rawMode with
  | .faketcp =>
    if info.syn = false ∧ info.ack = true ∧ info.dataLen ≠ 0 then
      let next := info.seq + UInt32.ofNat info.dataLen
      match config.seqMode with
      | 1 => { raw with sendInfo := { info with seq := next } }
      | 2 => if env.seqDraw % 5 = 3 then { raw with sendInfo := { info with seq := next } } else raw
      | 3 | 4 =>
        let window :=
          if config.seqMode = 3 then receiveWindowLowerBound <<< wscale.toUInt32
          else receiveWindowLowerBound
        let (seq, counter) := windowedSeq window raw.recvInfo next
        { raw with
          sendInfo := { info with seq }
          recvInfo := { raw.recvInfo with ackSeqCounter := counter } }
      | _ => raw
    else raw
  | .udp => raw
  | .icmp =>
    match config.programMode with
    | .client => { raw with sendInfo := { info with myIcmpSeq := info.myIcmpSeq + 1 } }
    | .server => raw

/-- The acknowledgement number after a segment: the low modes take any later one, the window
modes only the next one. -/
def nextAckSeq (seqMode : Nat) (recvInfo : PacketInfo v) (ackSeq : UInt32) : UInt32 :=
  let next := recvInfo.seq + UInt32.ofNat recvInfo.dataLen
  match seqMode with
  | 0 | 1 | 2 => if largerThanU32 next ackSeq then next else ackSeq
  | 3 | 4 => if recvInfo.seq = ackSeq then next else ackSeq
  | _ => ackSeq

/-- `after_recv_raw0`. -/
def afterRecvRaw0 {config : RawConfig v} (raw : RawInfo config) : RawInfo config :=
  let info := raw.sendInfo
  match config.rawMode with
  | .faketcp =>
    let info := if raw.recvInfo.hasTs then { info with tsAck := raw.recvInfo.ts } else info
    let info :=
      if raw.recvInfo.syn = false ∧ raw.recvInfo.ack = true ∧ raw.recvInfo.dataLen ≠ 0 then
        { info with ackSeq := nextAckSeq config.seqMode raw.recvInfo info.ackSeq }
      else info
    { raw with sendInfo := info }
  | .udp => raw
  | .icmp =>
    match config.programMode with
    | .client => raw
    | .server =>
      if largerThanU16 raw.recvInfo.myIcmpSeq info.myIcmpSeq then
        { raw with sendInfo := { info with myIcmpSeq := raw.recvInfo.myIcmpSeq } }
      else raw

end Udp2raw
