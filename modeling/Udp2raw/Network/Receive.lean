import Udp2raw.Network.Packet
import Mathlib.Tactic.SplitIfs
import Mathlib.Tactic.ByContra

/-!
# Parsing captured packets

`recv_raw_ip`, the three transport parsers above it and `peek_raw`. The parsers store what
they read in `recv_info` as they go, so a packet that is dropped late has already changed
it. A transport parser ends in one of three ways (`Received`): the two returned values of
the source, where a zero return may leave the payload variables of the caller unset.
-/
namespace Udp2raw

/-- How a transport parser ended. -/
inductive Received where
  /-- It returned `-1`. -/
  | failed
  /-- It returned `0` without setting the payload. -/
  | untouched
  /-- It returned `0` with this payload. -/
  | payload (segment : Segment)
  deriving DecidableEq, Repr

variable {v : IpVersion}

/-- The header length an IP packet claims. -/
def ipHeaderLen (v : IpVersion) (capture : Capture) : Nat :=
  match v with
  | .ipv4 => (capture.read 0).toNat % 16 * 4
  | .ipv6 => 40

/-- The total length an IP packet claims. -/
def ipTotalLen (v : IpVersion) (capture : Capture) : Nat :=
  match v with
  | .ipv4 => (capture.u16 2).toNat
  | .ipv6 => (capture.u16 4).toNat + ipHeaderLen v capture

/-- The metadata that `recv_raw_ip` stores once a packet is long enough for its header. -/
def PacketInfo.readIp (capture : Capture) (info : PacketInfo v) : PacketInfo v :=
  match v with
  | .ipv4 =>
    { info with
      newSrcIp := capture.ip .ipv4 12, newDstIp := capture.ip .ipv4 16
      protocol := capture.read 9 }
  | .ipv6 =>
    { info with
      newSrcIp := capture.ip .ipv6 8, newDstIp := capture.ip .ipv6 24
      protocol := capture.read 6 }

/-- `recv_raw_ip`; `none` is an error return. -/
def recvRawIp (config : RawConfig v) (capture : Capture) (raw : RawInfo config) :
    RawInfo config × Option Segment :=
  if capture.packet.length < 1 then (raw, none)
  else if (capture.read 0).toNat / 16 ≠ v.number then (raw, none)
  else if capture.packet.length < v.headerSize then (raw, none)
  else
    let raw := { raw with recvInfo := raw.recvInfo.readIp capture }
    let iphdrlen := ipHeaderLen v capture
    let ipLen := ipTotalLen v capture
    if config.bindAddr.any (fun addr => raw.recvInfo.newDstIp ≠ addr) then (raw, none)
    else if capture.packet.length < ipLen then (raw, none)
    -- the header is checked once: a look at a packet skips it
    else if v = .ipv4 ∧ raw.peek = false ∧ csum (capture.bytes 0 iphdrlen) ≠ 0 then (raw, none)
    else if ipLen < iphdrlen then (raw, none)
    else (raw, some ⟨iphdrlen, ipLen - iphdrlen⟩)

/-- What the network layer asks of a packet it accepts. -/
structure IpAccepts (config : RawConfig v) (capture : Capture) (raw : RawInfo config) : Prop where
  /-- The version of the socket. -/
  version : (capture.read 0).toNat / 16 = v.number
  /-- The fixed header is complete. -/
  header : v.headerSize ≤ capture.packet.length
  /-- The packet is for the bound address. -/
  bound : ∀ addr, config.bindAddr = some addr → (raw.recvInfo.readIp capture).newDstIp = addr
  /-- The claimed length was captured. -/
  whole : ipTotalLen v capture ≤ capture.packet.length
  /-- The header checksum is right, unless the packet is only looked at. -/
  checked : v = .ipv4 → raw.peek = false → csum (capture.bytes 0 (ipHeaderLen v capture)) = 0
  /-- The claimed length covers the header. -/
  positive : ipHeaderLen v capture ≤ ipTotalLen v capture

/-- The network layer accepts exactly these packets, and hands on what lies behind the header. -/
theorem recvRawIp_eq_some_iff {config : RawConfig v} {capture : Capture}
    {raw next : RawInfo config} {ip : Segment} :
    recvRawIp config capture raw = (next, some ip) ↔
      IpAccepts config capture raw ∧ next = { raw with recvInfo := raw.recvInfo.readIp capture } ∧
        ip = ⟨ipHeaderLen v capture, ipTotalLen v capture - ipHeaderLen v capture⟩ := by
  have header : 0 < v.headerSize := by cases v <;> decide
  constructor
  · intro accepted
    unfold recvRawIp at accepted
    simp only [ne_eq, ite_not] at accepted
    split_ifs at accepted with short version long foreign whole checked negative <;>
      simp only [Prod.mk.injEq, reduceCtorEq, and_false, Option.some.injEq] at accepted
    obtain ⟨rfl, rfl⟩ := accepted
    refine ⟨⟨version, by omega, ?_, by omega, ?_, by omega⟩, rfl, rfl⟩
    · intro addr used
      simpa [used] using foreign
    · intro family look
      by_contra wrong
      exact checked ⟨family, look, wrong⟩
  · rintro ⟨accepts, rfl, rfl⟩
    unfold recvRawIp
    have bound := accepts.bound
    have checked := accepts.checked
    have version := accepts.version
    have foreign : config.bindAddr.any
        (fun addr => (raw.recvInfo.readIp capture).newDstIp ≠ addr) = false := by
      cases used : config.bindAddr with
      | none => rfl
      | some addr => simp [bound addr used]
    have right : ¬(v = .ipv4 ∧ raw.peek = false ∧
        csum (capture.bytes 0 (ipHeaderLen v capture)) ≠ 0) := fun wrong =>
      wrong.2.2 (checked wrong.1 wrong.2.1)
    rw [if_neg (by have := accepts.header; omega), if_neg (by simpa using version),
      if_neg (Nat.not_lt.mpr accepts.header)]
    simp only [foreign, Bool.false_eq_true, if_false, Nat.not_lt.mpr accepts.whole, right,
      Nat.not_lt.mpr accepts.positive]

/-- The checksum of a transport packet together with its pseudo header. -/
def transportChecksum (capture : Capture) (info : PacketInfo v) (protocol : UInt8)
    (ip : Segment) : Nat :=
  csumWithHeader (pseudoHeader info.newSrcIp info.newDstIp protocol ip.length) (capture.segment ip)

/-- `parse_tcp_option` between two offsets: the returned value and the metadata after it. -/
def parseTcpOptions (capture : Capture) (ptr optionEnd : Nat) (info : PacketInfo v) :
    Int × PacketInfo v :=
  if ptr < optionEnd then
    let kind := capture.read ptr
    if kind = 0 then (0, info)
    else if kind = 1 then parseTcpOptions capture (ptr + 1) optionEnd info
    else if kind = 8 then
      if optionEnd ≤ ptr + 1 then (-1, info)
      else if capture.read (ptr + 1) ≠ 10 then (-1, info)
      else if optionEnd < ptr + 10 then (-1, info)
      else
        parseTcpOptions capture (ptr + 10) optionEnd
          { info with
            hasTs := true, ts := capture.u32 (ptr + 2), tsAck := capture.u32 (ptr + 6) }
    else if optionEnd ≤ ptr + 1 then (-1, info)
    else
      let len := (capture.read (ptr + 1)).toNat
      if len ≤ 1 then (-1, info)
      else parseTcpOptions capture (ptr + len) optionEnd info
  else (0, info)
  termination_by optionEnd - ptr

/-- `parse_tcp_option`. -/
def parseTcpOption (capture : Capture) (optionBegin optionEnd : Nat) (info : PacketInfo v) :
    Int × PacketInfo v :=
  parseTcpOptions capture optionBegin optionEnd { info with hasTs := false, ts := 0 }

/-- The flags of a TCP header, from `FIN` up. -/
def tcpFlag (capture : Capture) (header place : Nat) : Bool :=
  (capture.read (header + 13)).toNat.testBit place

/-- What `recv_raw_tcp` stores of a header, after its options. -/
def PacketInfo.readTcp (capture : Capture) (header : Nat) (info : PacketInfo v) : PacketInfo v :=
  let ackSeq := capture.u32 (header + 8)
  { info with
    ack := tcpFlag capture header 4
    syn := tcpFlag capture header 1
    rst := tcpFlag capture header 2
    srcPort := capture.u16 header
    dstPort := capture.u16 (header + 2)
    seq := capture.u32 (header + 4)
    ackSeq
    ackSeqCounter := if ackSeq = info.ackSeq then info.ackSeqCounter + 1 else 0
    psh := tcpFlag capture header 3 }

/-- The count of resets after one more, and whether it stops the connection. -/
def RawInfo.receiveRst {config : RawConfig v} (raw : RawInfo config) : RawInfo config :=
  let count := raw.rstReceived + 1
  if limit : 0 ≤ config.maxRstAllowed ∧ count = config.maxRstAllowed + 1 then
    { raw with rstReceived := count, disabled := true, disabledAllowed := fun _ => limit.1 }
  else { raw with rstReceived := count }

/-- The connection after a TCP packet with these fields and this payload length. -/
def RawInfo.storeTcp {config : RawConfig v} (raw : RawInfo config) (info : PacketInfo v)
    (dataLen : Nat) : RawInfo config :=
  let raw := { raw with recvInfo := { info with dataLen } }
  if info.rst then raw.receiveRst else raw

/-- The metadata after a TCP packet is the one read from it, with its payload length. -/
theorem RawInfo.storeTcp_recvInfo {config : RawConfig v} (raw : RawInfo config)
    (info : PacketInfo v) (dataLen : Nat) :
    (raw.storeTcp info dataLen).recvInfo = { info with dataLen } := by
  simp only [RawInfo.storeTcp, RawInfo.receiveRst]
  split_ifs <;> rfl

/-- `recv_raw_tcp`. A wrong checksum is only logged. -/
def recvRawTcp (config : RawConfig v) (filterPort : UInt16) (capture : Capture)
    (raw : RawInfo config) : RawInfo config × Received :=
  match recvRawIp config capture raw with
  | (raw, none) => (raw, .failed)
  | (raw, some ip) =>
    if raw.recvInfo.protocol ≠ ipprotoTcp then (raw, .failed)
    else
      let tcphdrlen := (capture.read (ip.offset + 12)).toNat / 16 * 4
      if ¬(0 < tcphdrlen ∧ tcphdrlen ≤ 60) then (raw, .untouched)
      else if ip.length < tcphdrlen then (raw, .untouched)
      else if capture.u16 (ip.offset + 2) ≠ filterPort then (raw, .failed)
      else
        let options := parseTcpOption capture (ip.offset + tcpHeaderSize) (ip.offset + tcphdrlen)
          raw.recvInfo
        let payload : Segment := ⟨ip.offset + tcphdrlen, ip.length - tcphdrlen⟩
        (raw.storeTcp (options.2.readTcp capture ip.offset) payload.length, .payload payload)

/-- `recv_raw_udp`. -/
def recvRawUdp (config : RawConfig v) (filterPort : UInt16) (capture : Capture)
    (raw : RawInfo config) : RawInfo config × Received :=
  match recvRawIp config capture raw with
  | (raw, none) => (raw, .failed)
  | (raw, some ip) =>
    if raw.recvInfo.protocol ≠ ipprotoUdp then (raw, .failed)
    else if ip.length < udpHeaderSize then (raw, .failed)
    else if (capture.u16 (ip.offset + 4)).toNat ≠ ip.length then (raw, .failed)
    else if capture.u16 (ip.offset + 2) ≠ filterPort then (raw, .failed)
    else if transportChecksum capture raw.recvInfo ipprotoUdp ip ≠ 0 then (raw, .failed)
    else
      let info := { raw.recvInfo with
        srcPort := capture.u16 ip.offset, dstPort := capture.u16 (ip.offset + 2) }
      ({ raw with recvInfo := info },
        .payload ⟨ip.offset + udpHeaderSize, ip.length - udpHeaderSize⟩)

/-- The type of the echo packets that a side receives: replies at the client, requests at the
server. -/
def receivedIcmpType (v : IpVersion) (programMode : ProgramMode) : UInt8 :=
  match v, programMode with
  | .ipv4, .client => 0
  | .ipv4, .server => 8
  | .ipv6, .client => 129
  | .ipv6, .server => 128

/-- The checksum of an echo packet, with a pseudo header over version six only. -/
def icmpChecksum (capture : Capture) (info : PacketInfo v) (ip : Segment) : Nat :=
  match v with
  | .ipv4 => csum (capture.segment ip)
  | .ipv6 => transportChecksum capture info (IpVersion.icmpProtocol .ipv6) ip

/-- `recv_raw_icmp`. -/
def recvRawIcmp (config : RawConfig v) (capture : Capture) (raw : RawInfo config) :
    RawInfo config × Received :=
  match recvRawIp config capture raw with
  | (raw, none) => (raw, .failed)
  | (raw, some ip) =>
    if raw.recvInfo.protocol ≠ v.icmpProtocol then (raw, .failed)
    else if ip.length < icmpHeaderSize then (raw, .failed)
    else if capture.u16 (ip.offset + 4) ≠ raw.sendInfo.srcPort then (raw, .failed)
    else
      let info := { raw.recvInfo with
        srcPort := capture.u16 (ip.offset + 4), dstPort := capture.u16 (ip.offset + 4)
        myIcmpSeq := capture.u16 (ip.offset + 6) }
      let raw := { raw with recvInfo := info }
      if capture.read (ip.offset + 1) ≠ 0 then (raw, .failed)
      else if capture.read ip.offset ≠ receivedIcmpType v config.programMode then (raw, .failed)
      else if icmpChecksum capture raw.recvInfo ip ≠ 0 then (raw, .failed)
      else (raw, .payload ⟨ip.offset + icmpHeaderSize, ip.length - icmpHeaderSize⟩)

/-- `recv_raw0`. -/
def recvRaw0 (config : RawConfig v) (filterPort : UInt16) (capture : Capture)
    (raw : RawInfo config) : RawInfo config × Received :=
  match config.rawMode with
  | .faketcp => recvRawTcp config filterPort capture raw
  | .udp => recvRawUdp config filterPort capture raw
  | .icmp => recvRawIcmp config capture raw

/-- `peek_raw`: the source of a packet before its connection is known. The result says whether
it returned zero. -/
def peekRaw (config : RawConfig v) (capture : Capture) (raw : RawInfo config) :
    RawInfo config × Bool :=
  match recvRawIp config capture raw with
  | (raw, none) => (raw, false)
  | (raw, some ip) =>
    match config.rawMode with
    | .faketcp =>
      if raw.recvInfo.protocol ≠ ipprotoTcp then (raw, false)
      else if ip.length < tcpHeaderSize then (raw, false)
      else
        let info := { raw.recvInfo with
          srcPort := capture.u16 ip.offset, syn := tcpFlag capture ip.offset 1 }
        ({ raw with recvInfo := info }, true)
    | .udp =>
      if raw.recvInfo.protocol ≠ ipprotoUdp then (raw, false)
      else if ip.length < udpHeaderSize then (raw, false)
      else ({ raw with recvInfo := { raw.recvInfo with srcPort := capture.u16 ip.offset } }, true)
    | .icmp =>
      if raw.recvInfo.protocol ≠ v.icmpProtocol then (raw, false)
      else if ip.length < udpHeaderSize then (raw, false)
      else
        let info := { raw.recvInfo with srcPort := capture.u16 (ip.offset + 4) }
        ({ raw with recvInfo := info }, true)

end Udp2raw
