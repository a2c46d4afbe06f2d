import Udp2raw.Data.Refinement
import Udp2raw.Network.RoundTrip
import Udp2raw.SendFault

/-!
# The buffers of the raw packets

`send_raw_ip` and the three builders above it once more, with their buffers. A payload that leaves
room for the headers is written inside all of them, and the packet is the one that the functions
build.
-/
namespace Udp2raw

open OnesComplement (word)

variable {v : IpVersion}

/-- The packet of `send_raw_ip` in its buffer, and `ip_tot_len`. -/
def ipPacketInto (config : RawConfig v) (memory : Nat → UInt8) (info : PacketInfo v)
    (ipId : UInt16) (payload : Bytes) : SendExec (SendBuffer × Nat) :=
  match v with
  | .ipv4 => do
    let ipTotLen ← shortLen (IpVersion.headerSize .ipv4 + payload.length)
    let totLen := if config.lowerLevel then ipTotLen else 0
    let buf ← (SendBuffer.fresh memory).copy 0 (ipv4Header config info ipId totLen 0) "iph"
    let buf ← buf.copy (IpVersion.headerSize .ipv4) payload "send_raw_ip_buf + sizeof(my_iphdr)"
    let check := if config.lowerLevel then csum (buf.bytes 0 (IpVersion.headerSize .ipv4)) else 0
    return (← buf.copy 10 (word check) "iph->check", ipTotLen)
  | .ipv6 => do
    let payloadLen ← shortLen payload.length
    let buf ← (SendBuffer.fresh memory).copy 0 (ipv6Header config info payloadLen) "ip6h"
    let ipTotLen ← shortLen (IpVersion.headerSize .ipv6 + payload.length)
    return (← buf.copy (IpVersion.headerSize .ipv6) payload "send_raw_ip_buf + sizeof(my_ip6hdr)",
      ipTotLen)

/-- `send_raw_ip`. -/
def sendRawIpInto (config : RawConfig v) (memory : Nat → UInt8) (env : SendEnv)
    (raw : RawInfo config) (payload : Bytes) : SendExec (Sent config) :=
  if raw.disabled then do
    checkSend (0 ≤ config.maxRstAllowed) "max_rst_allowed >= 0"
    return ⟨raw, none, 0⟩
  else do
    let (buf, ipTotLen) ← ipPacketInto config memory raw.sendInfo env.ipId payload
    return ⟨raw, some (buf.bytes 0 ipTotLen), if env.sendtoOk then 0 else -1⟩

/-- What the builders share: a header with a zero checksum, the payload behind it, and the checksum
over both in its place. -/
def segmentInto (memory : Nat → UInt8) (header payload : Bytes) (place : Nat)
    (checksum : Nat → Bytes → Nat) : SendExec Bytes := do
  let buf ← (SendBuffer.fresh memory).copy 0 header "header"
  let buf ← buf.copy header.length payload "payload"
  let totLen ← intLen (header.length + payload.length)
  let pseudoLen ← shortLen totLen
  let buf ← buf.copy place (word (checksum pseudoLen (buf.bytes 0 totLen))) "check"
  return buf.bytes 0 totLen

/-- The checksum under a pseudo header. -/
def pseudoChecksum (info : PacketInfo v) (protocol : UInt8) (length : Nat)
    (segment : Bytes) : Nat :=
  csumWithHeader (pseudoHeader info.newSrcIp info.newDstIp protocol length) segment

/-- `send_raw_tcp`. -/
def sendRawTcpInto (config : RawConfig v) (memory : Nat → UInt8) (env : SendEnv)
    (raw : RawInfo config) (payload : Bytes) : SendExec (Sent config) := do
  let segment ← segmentInto memory (tcpHeader raw.sendInfo env 0) payload 16
    (pseudoChecksum raw.sendInfo ipprotoTcp)
  let sent ← sendRawIpInto config memory env raw segment
  if sent.ret ≠ 0 then return { sent with ret := -1 }
  else
    let info := { sent.raw.sendInfo with dataLen := payload.length }
    return { sent with raw := { sent.raw with sendInfo := info } }

/-- The header that `send_raw_udp` writes. -/
def udpHeader (info : PacketInfo v) (udpLen : Nat) : Bytes :=
  BigEndian.encode 2 info.srcPort.toNat ++ BigEndian.encode 2 info.dstPort.toNat ++
    BigEndian.encode 2 udpLen ++ word 0

/-- `send_raw_udp`. -/
def sendRawUdpInto (config : RawConfig v) (memory : Nat → UInt8) (env : SendEnv)
    (raw : RawInfo config) (payload : Bytes) : SendExec (Sent config) := do
  let udpTotLen ← intLen (payload.length + udpHeaderSize)
  if 65535 < udpTotLen then return ⟨raw, none, -1⟩
  else do
    let header := udpHeader raw.sendInfo (← shortLen udpTotLen)
    let segment ← segmentInto memory header payload 6 (pseudoChecksum raw.sendInfo ipprotoUdp)
    let sent ← sendRawIpInto config memory env raw segment
    if sent.ret ≠ 0 then return { sent with ret := -1 } else return sent

/-- The header that `send_raw_icmp` writes. -/
def icmpHeader (config : RawConfig v) (info : PacketInfo v) : Bytes :=
  [sentIcmpType v config.programMode, 0] ++ word 0 ++ BigEndian.encode 2 info.srcPort.toNat ++
    BigEndian.encode 2 info.myIcmpSeq.toNat

/-- The checksum of an echo packet, which has a pseudo header over version six only. -/
def echoChecksum (info : PacketInfo v) (length : Nat) (segment : Bytes) : Nat :=
  match v with
  | .ipv4 => csum segment
  | .ipv6 => pseudoChecksum info (IpVersion.icmpProtocol .ipv6) length segment

/-- `send_raw_icmp`. -/
def sendRawIcmpInto (config : RawConfig v) (memory : Nat → UInt8) (env : SendEnv)
    (raw : RawInfo config) (payload : Bytes) : SendExec (Sent config) := do
  let segment ← segmentInto memory (icmpHeader config raw.sendInfo) payload 2
    (echoChecksum raw.sendInfo)
  let sent ← sendRawIpInto config memory env raw segment
  if sent.ret ≠ 0 then return { sent with ret := -1 } else return sent

/-- `send_raw0`. -/
def sendRaw0Into (config : RawConfig v) (memory : Nat → UInt8) (env : SendEnv)
    (raw : RawInfo config) (payload : Bytes) : SendExec (Sent config) :=
  if config.randomDrop ≠ 0 ∧ env.dropDraw % 10000 < config.randomDrop then .ok ⟨raw, none, 0⟩
  else
    match config.rawMode with
    | .faketcp => sendRawTcpInto config memory env raw payload
    | .udp => sendRawUdpInto config memory env raw payload
    | .icmp => sendRawIcmpInto config memory env raw payload

/-! ### Every write fits -/

section

variable {config : RawConfig v} (memory : Nat → UInt8) (env : SendEnv) (raw : RawInfo config)
  {payload : Bytes}

/-- A segment is the one that its builder is a function for. -/
theorem segmentInto_ok (header front : Bytes) {back : Bytes} {place : Nat} (segment : Nat → Bytes)
    (checksum : Nat → Bytes → Nat) (parts : ∀ check, segment check = front ++ word check ++ back)
    (whole : segment 0 = header ++ payload) (at_ : front.length = place)
    (fits : header.length + payload.length ≤ bufLen) :
    segmentInto memory header payload place checksum =
      .ok (segment (checksum (segment 0).length (segment 0))) := by
  have size : bufLen = 2200 := rfl
  have total : (segment 0).length = header.length + payload.length := by
    rw [whole, List.length_append]
  have room := congrArg List.length (parts 0)
  rw [total, List.length_append, List.length_append, OnesComplement.word_length] at room
  have held : (((SendBuffer.fresh memory).put 0 header).put header.length payload).bytes 0
      (segment 0).length = segment 0 := by
    rw [total, whole]
    exact Buffer.bytes_put_end (Buffer.bytes_put _ 0 header) payload
  refine SendExec.step (SendBuffer.copy_ok _ (by omega)) (SendExec.step (SendBuffer.copy_ok _ fits)
    (SendExec.step (intLen_ok (by omega)) (SendExec.step (shortLen_ok (by omega)) ?_)))
  rw [← total, held]
  refine SendExec.step (SendBuffer.copy_ok _ (by rw [OnesComplement.word_length]; omega)) ?_
  refine congrArg Except.ok ?_
  rw [parts (checksum _ _)]
  exact Buffer.bytes_put_splice _ (word 0) (held.trans (parts 0)) at_
    (OnesComplement.word_length _)

/-- Where the checksum of a version four header stands. -/
theorem ipv4Header_parts (config : RawConfig .ipv4) (info : PacketInfo .ipv4) (ipId : UInt16)
    (totLen check : Nat) :
    ipv4Header config info ipId totLen check =
      ([0x45, 0] ++ BigEndian.encode 2 totLen ++ BigEndian.encode 2 ipId.toNat ++ [0x40, 0] ++
        [config.ttlValue, info.protocol]) ++ word check ++
          (info.newSrcIp.toList ++ info.newDstIp.toList) := by
  simp only [ipv4Header, List.append_assoc]

/-- A header and a payload behind it. -/
theorem bytes_put_two (buffer : SendBuffer) (payload : Bytes) {header : Bytes} {place : Nat}
    (size : header.length = place) :
    ((buffer.put 0 header).put place payload).bytes 0 (place + payload.length) =
      header ++ payload := by
  subst size
  exact Buffer.bytes_put_end (buffer.bytes_put 0 header) payload

/-- A version four packet after its checksum is stored. -/
theorem ipv4Buffer_bytes (config : RawConfig .ipv4) (info : PacketInfo .ipv4) (ipId : UInt16)
    (totLen check : Nat) (buffer : SendBuffer) :
    (((buffer.put 0 (ipv4Header config info ipId totLen 0)).put 20 payload).put 10
      (word check)).bytes 0 (20 + payload.length) =
        ipv4Header config info ipId totLen check ++ payload := by
  have held := bytes_put_two buffer payload
    (ipv4Header_length config info ipId totLen 0)
  rw [ipv4Header_parts config info ipId totLen check, List.append_assoc]
  refine Buffer.bytes_put_splice _ (word 0) (held.trans ?_) ?_ (OnesComplement.word_length check)
  · rw [ipv4Header_parts, List.append_assoc]
  · simp

/-- `send_raw_ip` fits where there is room for the longer header. -/
theorem ipPacketInto_ok (info : PacketInfo v) (ipId : UInt16)
    (fits : payload.length + 40 ≤ bufLen) :
    ∃ buf len, ipPacketInto config memory info ipId payload = .ok (buf, len) ∧
      buf.bytes 0 len = ipPacket config info ipId payload := by
  have size : bufLen = 2200 := rfl
  cases v with
  | ipv4 =>
    have whole : IpVersion.headerSize .ipv4 = 20 := rfl
    have header (totLen : Nat) := ipv4Header_length config info ipId totLen 0
    refine ⟨_, _, SendExec.step (shortLen_ok (by omega))
      (SendExec.step (SendBuffer.copy_ok _ (by rw [header]; omega))
        (SendExec.step (SendBuffer.copy_ok _ (by omega))
          (SendExec.step (SendBuffer.copy_ok _ (by rw [OnesComplement.word_length]; omega))
            rfl))), ?_⟩
    have start (totLen : Nat) : (((SendBuffer.fresh memory).put 0
        (ipv4Header config info ipId totLen 0)).put 20 payload).bytes 0 20 =
        ipv4Header config info ipId totLen 0 := by
      rw [Buffer.bytes_put_before _ (by omega)]
      have own := (SendBuffer.fresh memory).bytes_put 0 (ipv4Header config info ipId totLen 0)
      rwa [header] at own
    show ((Buffer.put _ 20 payload).put 10
      (word (if _ then csum (Buffer.bytes (Buffer.put _ 20 payload) 0 20) else 0))).bytes 0
        (20 + payload.length) = _
    unfold ipPacket
    dsimp only
    rw [start, ipv4Buffer_bytes]
    by_cases lower : config.lowerLevel = true
    · rw [if_pos lower, if_pos lower, if_pos lower]
    · rw [if_neg lower, if_neg lower, if_neg lower]
  | ipv6 =>
    have whole : IpVersion.headerSize .ipv6 = 40 := rfl
    have header := ipv6Header_length config info payload.length
    refine ⟨_, _, SendExec.step (shortLen_ok (by omega))
      (SendExec.step (SendBuffer.copy_ok _ (by rw [header]; omega))
        (SendExec.step (shortLen_ok (by omega))
          (SendExec.step (SendBuffer.copy_ok _ (by omega)) rfl))), ?_⟩
    exact bytes_put_two _ payload header

/-- `send_raw_ip` without an overflow. -/
theorem sendRawIpInto_matches (fits : payload.length + 40 ≤ bufLen) :
    Matches SendFault.fault Eq (sendRawIpInto config memory env raw payload)
      (sendRawIp config env raw payload) := by
  unfold sendRawIpInto sendRawIp
  by_cases disabled : raw.disabled = true
  · rw [if_pos disabled, if_pos disabled, checkSend_eq]
    cases assert (0 ≤ config.maxRstAllowed) "max_rst_allowed >= 0" with
    | error reason => exact .error reason
    | ok value => exact rfl
  · rw [if_neg disabled, if_neg disabled]
    obtain ⟨buf, len, built, packet⟩ := ipPacketInto_ok memory raw.sendInfo env.ipId fits
    refine .bind_left built ?_
    dsimp only
    rw [packet]
    exact rfl

/-- Where the checksum of a TCP header stands. -/
theorem tcpHeader_parts (info : PacketInfo v) (env : SendEnv) : ∃ front back : Bytes,
    front.length = 16 ∧ ∀ check, tcpHeader info env check = front ++ word check ++ back := by
  refine ⟨_, _, ?_, fun check => by
    rw [tcpHeader, tcpSegment, List.append_assoc, List.append_assoc]⟩
  simp

/-- `send_raw_tcp` without an overflow. -/
theorem sendRawTcpInto_matches (fits : payload.length + 80 ≤ bufLen) :
    Matches SendFault.fault Eq (sendRawTcpInto config memory env raw payload)
      (sendRawTcp config env raw payload) := by
  have header := tcpHeader_length raw.sendInfo env 0
  have words : tcpDoff raw.sendInfo.syn ≤ 10 := by
    unfold tcpDoff
    split <;> decide
  obtain ⟨front, back, place, parts⟩ := tcpHeader_parts raw.sendInfo env
  have built := segmentInto_ok memory (tcpHeader raw.sendInfo env 0) front
    (tcpSegment raw.sendInfo env payload) (pseudoChecksum raw.sendInfo ipprotoTcp)
    (fun check => by rw [tcpSegment_eq, parts, List.append_assoc])
    (tcpSegment_eq raw.sendInfo env payload 0) place (by omega)
  refine .bind_left built ?_
  have length : (tcpSegment raw.sendInfo env payload
      (segmentChecksum raw.sendInfo ipprotoTcp (tcpSegment raw.sendInfo env payload))).length =
      tcpDoff raw.sendInfo.syn * 4 + payload.length := by
    rw [tcpSegment_eq, List.length_append, tcpHeader_length]
  refine .bind (sendRawIpInto_matches memory env raw (by
    show (tcpSegment raw.sendInfo env payload (segmentChecksum raw.sendInfo ipprotoTcp
      (tcpSegment raw.sendInfo env payload))).length + 40 ≤ bufLen
    omega)) ?_
  rintro sent _ rfl
  split <;> exact rfl

/-- `send_raw_udp` without an overflow. -/
theorem sendRawUdpInto_matches (fits : payload.length + 80 ≤ bufLen) :
    Matches SendFault.fault Eq (sendRawUdpInto config memory env raw payload)
      (sendRawUdp config env raw payload) := by
  have size : bufLen = 2200 := rfl
  have total : payload.length + udpHeaderSize = payload.length + 8 := rfl
  have short : ¬65535 < payload.length + udpHeaderSize := by omega
  unfold sendRawUdp
  rw [if_neg short]
  refine .bind_left (intLen_ok (by omega)) ?_
  rw [if_neg short]
  refine .bind_left (shortLen_ok (by omega)) ?_
  have place : (BigEndian.encode 2 raw.sendInfo.srcPort.toNat ++
      BigEndian.encode 2 raw.sendInfo.dstPort.toNat ++
        BigEndian.encode 2 (payload.length + udpHeaderSize)).length = 6 := by
    simp only [List.length_append, BigEndian.encode_length]
  have built := segmentInto_ok memory (udpHeader raw.sendInfo (payload.length + udpHeaderSize)) _
    (udpSegment raw.sendInfo payload) (pseudoChecksum raw.sendInfo ipprotoUdp)
    (fun check => by rw [udpSegment]) (by rw [udpSegment, udpHeader]) place
    (by simp [udpHeader]; omega)
  refine .bind_left built ?_
  have length := udpSegment_length raw.sendInfo payload
    (segmentChecksum raw.sendInfo ipprotoUdp (udpSegment raw.sendInfo payload))
  refine .bind (sendRawIpInto_matches memory env raw (by
    show (udpSegment raw.sendInfo payload (segmentChecksum raw.sendInfo ipprotoUdp
      (udpSegment raw.sendInfo payload))).length + 40 ≤ bufLen
    omega)) ?_
  rintro sent _ rfl
  split <;> exact rfl

/-- The checksum of an echo packet is the one that its builder stores. -/
theorem echoChecksum_eq (info : PacketInfo v) (segment : Nat → Bytes) :
    echoChecksum info (segment 0).length (segment 0) = icmpSegmentChecksum info segment := by
  cases v <;> rfl

/-- `send_raw_icmp` without an overflow. -/
theorem sendRawIcmpInto_matches (fits : payload.length + 80 ≤ bufLen) :
    Matches SendFault.fault Eq (sendRawIcmpInto config memory env raw payload)
      (sendRawIcmp config env raw payload) := by
  have size : bufLen = 2200 := rfl
  have total : payload.length + icmpHeaderSize = payload.length + 8 := rfl
  have built := segmentInto_ok memory (icmpHeader config raw.sendInfo)
    [sentIcmpType v config.programMode, 0] (icmpSegment config raw.sendInfo payload)
    (echoChecksum raw.sendInfo) (fun check => by
      rw [icmpSegment, List.append_assoc, List.append_assoc])
    (by rw [icmpSegment, icmpHeader]) rfl (by simp [icmpHeader]; omega)
  rw [echoChecksum_eq] at built
  refine .bind_left built ?_
  have length := icmpSegment_length config raw.sendInfo payload
    (icmpSegmentChecksum raw.sendInfo (icmpSegment config raw.sendInfo payload))
  refine .bind (sendRawIpInto_matches memory env raw (by omega)) ?_
  rintro sent _ rfl
  split <;> exact rfl

/-- `send_raw0` without an overflow. -/
theorem sendRaw0Into_matches (fits : payload.length + 80 ≤ bufLen) :
    Matches SendFault.fault Eq (sendRaw0Into config memory env raw payload)
      (sendRaw0 config env raw payload) := by
  unfold sendRaw0Into sendRaw0
  split
  · exact rfl
  · cases config.rawMode with
    | faketcp => exact sendRawTcpInto_matches memory env raw fits
    | udp => exact sendRawUdpInto_matches memory env raw fits
    | icmp => exact sendRawIcmpInto_matches memory env raw fits

end

end Udp2raw
