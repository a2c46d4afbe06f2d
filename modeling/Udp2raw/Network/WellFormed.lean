import Udp2raw.Network.Receive
import Mathlib.Tactic.Common

/-!
# What a zero return of the receive path promises

A caller of `recv_raw0` trusts a zero return and dereferences the payload. The promise is
kept by the UDP and ICMP parsers on every packet and by the TCP parser exactly when the
data offset of the header is in bounds; what a parser reads outside the packet shows as a
result that depends on the older contents of the buffer.
-/
namespace Udp2raw

variable {v : IpVersion}

/-! ### Reads inside the packet -/

namespace Capture

/-- The same packet in a buffer that held something else. -/
def restale (capture : Capture) (stale : Nat → UInt8) : Capture := { capture with stale }

variable (capture : Capture) (stale : Nat → UInt8) {offset : Nat}

/-- The packet itself does not depend on the buffer. -/
@[simp] theorem restale_packet : (capture.restale stale).packet = capture.packet := rfl

/-- A byte of the packet does not depend on the buffer. -/
theorem read_restale (offset : Nat) (inside : offset < capture.packet.length) :
    (capture.restale stale).read offset = capture.read offset := by
  simp [read, List.getElem?_eq_getElem inside]

/-- A range of the packet does not depend on the buffer. -/
theorem bytes_restale {length : Nat} (inside : offset + length ≤ capture.packet.length) :
    (capture.restale stale).bytes offset length = capture.bytes offset length := by
  rw [bytes_inside _ inside, bytes_inside _ (by simpa using inside), restale_packet]

/-- A short of the packet does not depend on the buffer. -/
theorem u16_restale (offset : Nat) (inside : offset + 2 ≤ capture.packet.length) :
    (capture.restale stale).u16 offset = capture.u16 offset := by
  rw [u16, bytes_restale _ _ inside, u16]

/-- A long of the packet does not depend on the buffer. -/
theorem u32_restale (offset : Nat) (inside : offset + 4 ≤ capture.packet.length) :
    (capture.restale stale).u32 offset = capture.u32 offset := by
  rw [u32, bytes_restale _ _ inside, u32]

/-- An address of the packet does not depend on the buffer. -/
theorem ip_restale (inside : offset + v.addrLen ≤ capture.packet.length) :
    (capture.restale stale).ip v offset = capture.ip v offset := by
  rw [ip, bytes_restale _ _ inside, ip]

end Capture

variable {config : RawConfig v} {filterPort : UInt16} {capture : Capture} {raw : RawInfo config}
  {stale : Nat → UInt8}

/-- The claimed header length lies in the first byte. -/
theorem ipHeaderLen_restale (some : 0 < capture.packet.length) :
    ipHeaderLen v (capture.restale stale) = ipHeaderLen v capture := by
  cases v <;> simp only [ipHeaderLen, Capture.read_restale _ _ _ some]

/-- The claimed total length lies in the fixed header. -/
theorem ipTotalLen_restale (header : v.headerSize ≤ capture.packet.length) :
    ipTotalLen v (capture.restale stale) = ipTotalLen v capture := by
  cases v <;> simp only [IpVersion.headerSize] at header
  · simp only [ipTotalLen, Capture.u16_restale capture stale 2 (by omega)]
  · simp only [ipTotalLen, Capture.u16_restale capture stale 4 (by omega),
      ipHeaderLen]

/-- The metadata of the network layer lies in the fixed header. -/
theorem readIp_restale (header : v.headerSize ≤ capture.packet.length) (info : PacketInfo v) :
    info.readIp (capture.restale stale) = info.readIp capture := by
  cases v <;> simp only [IpVersion.headerSize] at header
  · have src : 12 + IpVersion.addrLen .ipv4 ≤ capture.packet.length := by
      simp only [IpVersion.addrLen]
      omega
    have dst : 16 + IpVersion.addrLen .ipv4 ≤ capture.packet.length := by
      simp only [IpVersion.addrLen]
      omega
    simp only [PacketInfo.readIp, Capture.ip_restale _ _ src, Capture.ip_restale _ _ dst,
      Capture.read_restale capture stale 9 (by omega)]
  · have src : 8 + IpVersion.addrLen .ipv6 ≤ capture.packet.length := by
      simp only [IpVersion.addrLen]
      omega
    have dst : 24 + IpVersion.addrLen .ipv6 ≤ capture.packet.length := by
      simp only [IpVersion.addrLen]
      omega
    simp only [PacketInfo.readIp, Capture.ip_restale _ _ src, Capture.ip_restale _ _ dst,
      Capture.read_restale capture stale 6 (by omega)]

/-- The network layer never acts on a byte outside the packet: a header that passes its end is
rejected whatever its checksum. -/
theorem recvRawIp_restale :
    recvRawIp config (capture.restale stale) raw = recvRawIp config capture raw := by
  unfold recvRawIp
  rw [Capture.restale_packet]
  by_cases short : capture.packet.length < 1
  · simp only [short, if_true]
  · rw [Capture.read_restale _ _ _ (by omega), if_neg short, if_neg short]
    by_cases version : (capture.read 0).toNat / 16 = v.number
    · by_cases header : capture.packet.length < v.headerSize
      · simp only [version, ne_eq, not_true_eq_false, if_false, header, if_true]
      · simp only [version, ne_eq, not_true_eq_false, if_false, header,
          readIp_restale (Nat.not_lt.mp header), ipTotalLen_restale (Nat.not_lt.mp header),
          ipHeaderLen_restale (v := v) (Nat.not_lt.mp short)]
        by_cases whole : capture.packet.length < ipTotalLen v capture
        · simp only [whole, if_true]
        · by_cases negative : ipTotalLen v capture < ipHeaderLen v capture
          · simp only [negative, if_true, ite_self]
          · rw [Capture.bytes_restale capture stale (by omega)]
    · simp only [ne_eq, version, not_false_eq_true, if_true]

/-- An accepted payload starts behind the header and ends inside the packet. -/
theorem recvRawIp_inside {next : RawInfo config} {ip : Segment}
    (accepted : recvRawIp config capture raw = (next, some ip)) :
    ip.offset = ipHeaderLen v capture ∧ ip.offset + ip.length ≤ capture.packet.length := by
  obtain ⟨accepts, -, rfl⟩ := recvRawIp_eq_some_iff.mp accepted
  have whole := accepts.whole
  have positive := accepts.positive
  exact ⟨rfl, by simp only; omega⟩

/-- The options of a header inside the packet do not depend on the buffer. -/
theorem parseTcpOptions_restale {ptr optionEnd : Nat} (info : PacketInfo v)
    (inside : optionEnd ≤ capture.packet.length) :
    parseTcpOptions (capture.restale stale) ptr optionEnd info =
      parseTcpOptions capture ptr optionEnd info := by
  induction left : optionEnd - ptr using Nat.strongRecOn generalizing ptr info with
  | ind left ih =>
  by_cases more : ptr < optionEnd
  · have later : ∀ next info, ptr < next → parseTcpOptions (capture.restale stale) next optionEnd
        info = parseTcpOptions capture next optionEnd info :=
      fun next info advanced => ih (optionEnd - next) (by omega) info rfl
    rw [parseTcpOptions, parseTcpOptions.eq_def capture]
    simp only [more, if_true, Capture.read_restale _ _ _ (Nat.lt_of_lt_of_le more inside),
      later (ptr + 1) info (by omega)]
    by_cases room : optionEnd ≤ ptr + 1
    · simp only [room, if_true]
    · simp only [room, if_false, Capture.read_restale capture stale (ptr + 1) (by omega)]
      by_cases stamp : optionEnd < ptr + 10
      · simp only [stamp, if_true]
        split_ifs <;> first | rfl | exact later _ _ (by omega)
      · simp only [stamp, if_false, later (ptr + 10) _ (by omega),
          Capture.u32_restale capture stale (ptr + 2) (by omega),
          Capture.u32_restale capture stale (ptr + 6) (by omega)]
        split_ifs <;> first | rfl | exact later _ _ (by omega)
  · rw [parseTcpOptions, parseTcpOptions.eq_def capture, if_neg more, if_neg more]

/-- The fixed part of a TCP header inside the packet does not depend on the buffer. -/
theorem readTcp_restale {header : Nat} (info : PacketInfo v)
    (inside : header + tcpHeaderSize ≤ capture.packet.length) :
    info.readTcp (capture.restale stale) header = info.readTcp capture header := by
  simp only [tcpHeaderSize] at inside
  simp only [PacketInfo.readTcp, tcpFlag,
    Capture.read_restale capture stale (header + 13) (by omega),
    Capture.u16_restale capture stale header (by omega),
    Capture.u16_restale capture stale (header + 2) (by omega),
    Capture.u32_restale capture stale (header + 4) (by omega),
    Capture.u32_restale capture stale (header + 8) (by omega)]

/-- A transport checksum over the packet does not depend on the buffer. -/
theorem transportChecksum_restale {info : PacketInfo v} {protocol : UInt8} {ip : Segment}
    (inside : ip.offset + ip.length ≤ capture.packet.length) :
    transportChecksum (capture.restale stale) info protocol ip =
      transportChecksum capture info protocol ip := by
  simp only [transportChecksum, Capture.segment, Capture.bytes_restale _ _ inside]

/-! ### The promise -/

/-- `sizeof` the transport header of a mode. -/
def RawMode.headerSize : RawMode → Nat
  | .faketcp => tcpHeaderSize
  | .udp => udpHeaderSize
  | .icmp => icmpHeaderSize

/-- A returned payload lies behind a complete transport header and inside the packet, and
nothing that was stored came from outside it. -/
structure WellFormed (config : RawConfig v) (filterPort : UInt16) (capture : Capture)
    (raw : RawInfo config) (payload : Segment) : Prop where
  /-- The payload starts behind a complete transport header. -/
  complete : ipHeaderLen v capture + config.rawMode.headerSize ≤ payload.offset
  /-- The payload ends inside the packet. -/
  inside : payload.offset + payload.length ≤ capture.packet.length
  /-- The stored metadata does not depend on what the buffer held before. -/
  read : ∀ stale, recvRaw0 config filterPort (capture.restale stale) raw =
    recvRaw0 config filterPort capture raw

/-- The promise of `recv_raw0`: it returns a negative value or a well formed payload. -/
def WellFormedReception (config : RawConfig v) (filterPort : UInt16) (capture : Capture)
    (raw : RawInfo config) : Prop :=
  match (recvRaw0 config filterPort capture raw).2 with
  | .failed => True
  | .untouched => False
  | .payload segment => WellFormed config filterPort capture raw segment

/-- The data offset field behind a network header, in words. -/
def tcpDataOffset (capture : Capture) (ip : Segment) : Nat :=
  (capture.read (ip.offset + 12)).toNat / 16

/-- The data offset is in bounds: it covers the fixed header and lies in the payload of the
network layer. -/
def DataOffsetInBounds (capture : Capture) (ip : Segment) : Prop :=
  5 ≤ tcpDataOffset capture ip ∧ tcpDataOffset capture ip * 4 ≤ ip.length

/-- The data offset at least keeps the parser from returning early, and the packet is for
another port. -/
def OtherPort (filterPort : UInt16) (capture : Capture) (ip : Segment) : Prop :=
  0 < tcpDataOffset capture ip ∧ tcpDataOffset capture ip * 4 ≤ ip.length ∧
    capture.u16 (ip.offset + 2) ≠ filterPort

/-- When the promise is kept: in fake TCP mode, a TCP packet that the network layer accepts has
a data offset in bounds, or is dropped for its port. -/
def ReceptionCondition (config : RawConfig v) (filterPort : UInt16) (capture : Capture)
    (raw : RawInfo config) : Prop :=
  config.rawMode = .faketcp → ∀ next ip, recvRawIp config capture raw = (next, some ip) →
    next.recvInfo.protocol = ipprotoTcp →
      DataOffsetInBounds capture ip ∨ OtherPort filterPort capture ip

variable {next : RawInfo config} {ip : Segment}

/-- A data offset field has four bits. -/
theorem tcpDataOffset_lt (capture : Capture) (ip : Segment) : tcpDataOffset capture ip < 16 := by
  have byte := (capture.read (ip.offset + 12)).toNat_lt
  unfold tcpDataOffset
  omega

/-- A data offset of zero or past the payload makes the TCP parser return zero early. -/
theorem recvRawTcp_untouched (accepted : recvRawIp config capture raw = (next, some ip))
    (protocol : next.recvInfo.protocol = ipprotoTcp)
    (outside : ¬(0 < tcpDataOffset capture ip ∧ tcpDataOffset capture ip * 4 ≤ ip.length)) :
    (recvRawTcp config filterPort capture raw).2 = .untouched := by
  have bits := tcpDataOffset_lt capture ip
  simp only [tcpDataOffset] at outside bits
  simp only [recvRawTcp, accepted, protocol, ne_eq, not_true_eq_false, if_false]
  split_ifs <;> first | rfl | omega

/-- A TCP packet for another port is dropped when its data offset keeps it that far. -/
theorem recvRawTcp_otherPort (accepted : recvRawIp config capture raw = (next, some ip))
    (protocol : next.recvInfo.protocol = ipprotoTcp) (other : OtherPort filterPort capture ip) :
    (recvRawTcp config filterPort capture raw).2 = .failed := by
  obtain ⟨positive, fits, port⟩ := other
  have bits := tcpDataOffset_lt capture ip
  simp only [tcpDataOffset] at positive fits bits
  simp only [recvRawTcp, accepted, protocol, ne_eq, not_true_eq_false, if_false, port,
    not_false_eq_true, if_true]
  split_ifs <;> first | rfl | omega

/-- A TCP packet for this port whose data offset keeps it that far is returned, with what lies
behind the claimed header. -/
theorem recvRawTcp_payload (accepted : recvRawIp config capture raw = (next, some ip))
    (protocol : next.recvInfo.protocol = ipprotoTcp) (positive : 0 < tcpDataOffset capture ip)
    (fits : tcpDataOffset capture ip * 4 ≤ ip.length)
    (port : capture.u16 (ip.offset + 2) = filterPort) :
    (recvRawTcp config filterPort capture raw).2 = .payload
      ⟨ip.offset + tcpDataOffset capture ip * 4, ip.length - tcpDataOffset capture ip * 4⟩ := by
  have bits := tcpDataOffset_lt capture ip
  simp only [tcpDataOffset] at positive fits bits ⊢
  simp only [recvRawTcp, accepted, protocol, ne_eq, not_true_eq_false, if_false, port]
  split_ifs <;> first | rfl | omega

/-- A data offset in bounds keeps the TCP parser inside the packet. -/
theorem recvRawTcp_restale (accepted : recvRawIp config capture raw = (next, some ip))
    (bounds : DataOffsetInBounds capture ip) :
    recvRawTcp config filterPort (capture.restale stale) raw =
      recvRawTcp config filterPort capture raw := by
  obtain ⟨-, inside⟩ := recvRawIp_inside accepted
  obtain ⟨complete, fits⟩ := bounds
  have header : ip.offset + tcpHeaderSize ≤ capture.packet.length := by
    simp only [tcpHeaderSize]
    omega
  have options : ip.offset + (capture.read (ip.offset + 12)).toNat / 16 * 4 ≤
      capture.packet.length := by
    simp only [tcpDataOffset] at fits
    omega
  simp only [tcpHeaderSize] at header
  simp only [recvRawTcp, recvRawIp_restale, accepted, parseTcpOption,
    Capture.read_restale capture stale (ip.offset + 12) (by omega),
    Capture.u16_restale capture stale (ip.offset + 2) (by omega),
    parseTcpOptions_restale _ options, readTcp_restale _ header]

/-- The UDP parser stays inside the packet. -/
theorem recvRawUdp_restale :
    recvRawUdp config filterPort (capture.restale stale) raw =
      recvRawUdp config filterPort capture raw := by
  unfold recvRawUdp
  rw [recvRawIp_restale]
  cases accepted : recvRawIp config capture raw with
  | mk next found =>
    cases found with
    | none => rfl
    | some ip =>
      obtain ⟨-, inside⟩ := recvRawIp_inside accepted
      by_cases short : ip.length < udpHeaderSize
      · simp only [short, if_true]
      · simp only [udpHeaderSize] at short
        simp only [transportChecksum_restale inside,
          Capture.u16_restale capture stale (ip.offset) (by omega),
          Capture.u16_restale capture stale (ip.offset + 2) (by omega),
          Capture.u16_restale capture stale (ip.offset + 4) (by omega)]

/-- The ICMP parser stays inside the packet. -/
theorem recvRawIcmp_restale :
    recvRawIcmp config (capture.restale stale) raw = recvRawIcmp config capture raw := by
  unfold recvRawIcmp
  rw [recvRawIp_restale]
  cases accepted : recvRawIp config capture raw with
  | mk next found =>
    cases found with
    | none => rfl
    | some ip =>
      obtain ⟨-, inside⟩ := recvRawIp_inside accepted
      have checksum : ∀ info : PacketInfo v,
          icmpChecksum (capture.restale stale) info ip = icmpChecksum capture info ip := by
        intro info
        cases v <;> simp only [icmpChecksum, transportChecksum_restale inside, Capture.segment,
          Capture.bytes_restale _ _ inside]
      by_cases short : ip.length < icmpHeaderSize
      · simp only [short, if_true]
      · simp only [icmpHeaderSize] at short
        simp only [checksum,
          Capture.read_restale capture stale (ip.offset) (by omega),
          Capture.read_restale capture stale (ip.offset + 1) (by omega),
          Capture.u16_restale capture stale (ip.offset + 4) (by omega),
          Capture.u16_restale capture stale (ip.offset + 6) (by omega)]

/-- What the UDP parser returns lies behind a complete header and inside the packet. -/
theorem recvRawUdp_inside {payload : Segment}
    (returned : (recvRawUdp config filterPort capture raw).2 = .payload payload) :
    ipHeaderLen v capture + udpHeaderSize ≤ payload.offset ∧
      payload.offset + payload.length ≤ capture.packet.length := by
  unfold recvRawUdp at returned
  cases accepted : recvRawIp config capture raw with
  | mk next found =>
    cases found with
    | none => simp [accepted] at returned
    | some ip =>
      obtain ⟨start, inside⟩ := recvRawIp_inside accepted
      simp only [accepted] at returned
      split_ifs at returned with protocol short
      obtain rfl := Received.payload.inj returned
      simp only [udpHeaderSize] at short ⊢
      omega

/-- What the ICMP parser returns lies behind a complete header and inside the packet. -/
theorem recvRawIcmp_inside {payload : Segment}
    (returned : (recvRawIcmp config capture raw).2 = .payload payload) :
    ipHeaderLen v capture + icmpHeaderSize ≤ payload.offset ∧
      payload.offset + payload.length ≤ capture.packet.length := by
  unfold recvRawIcmp at returned
  cases accepted : recvRawIp config capture raw with
  | mk next found =>
    cases found with
    | none => simp [accepted] at returned
    | some ip =>
      obtain ⟨start, inside⟩ := recvRawIp_inside accepted
      simp only [accepted] at returned
      split_ifs at returned with protocol short
      obtain rfl := Received.payload.inj returned
      simp only [icmpHeaderSize] at short ⊢
      omega

/-- The UDP parser never leaves the payload unset. -/
theorem recvRawUdp_touched : (recvRawUdp config filterPort capture raw).2 ≠ .untouched := by
  unfold recvRawUdp
  split
  · simp
  · split_ifs <;> simp

/-- The ICMP parser never leaves the payload unset. -/
theorem recvRawIcmp_touched : (recvRawIcmp config capture raw).2 ≠ .untouched := by
  unfold recvRawIcmp
  split
  · simp
  · intro untouched
    simp only at untouched
    split_ifs at untouched

/-- Outside fake TCP mode the promise is always kept. -/
theorem wellFormedReception_of_checked (other : config.rawMode ≠ .faketcp) :
    WellFormedReception config filterPort capture raw := by
  unfold WellFormedReception
  cases mode : config.rawMode with
  | faketcp => exact absurd mode other
  | udp =>
    cases returned : (recvRawUdp config filterPort capture raw).2 with
    | failed => simp only [recvRaw0, mode, returned]
    | untouched => exact absurd returned recvRawUdp_touched
    | payload segment =>
      obtain ⟨complete, inside⟩ := recvRawUdp_inside returned
      simp only [recvRaw0, mode, returned]
      exact ⟨by simpa only [mode, RawMode.headerSize] using complete, inside, fun stale => by
        simp only [recvRaw0, mode, recvRawUdp_restale]⟩
  | icmp =>
    cases returned : (recvRawIcmp config capture raw).2 with
    | failed => simp only [recvRaw0, mode, returned]
    | untouched => exact absurd returned recvRawIcmp_touched
    | payload segment =>
      obtain ⟨complete, inside⟩ := recvRawIcmp_inside returned
      simp only [recvRaw0, mode, returned]
      exact ⟨by simpa only [mode, RawMode.headerSize] using complete, inside, fun stale => by
        simp only [recvRaw0, mode, recvRawIcmp_restale]⟩

/-- A packet that is no TCP packet of an accepted network header is dropped in fake TCP mode. -/
theorem recvRawTcp_failed
    (foreign : ∀ next ip, recvRawIp config capture raw = (next, some ip) →
      next.recvInfo.protocol ≠ ipprotoTcp) :
    (recvRawTcp config filterPort capture raw).2 = .failed := by
  cases found : recvRawIp config capture raw with
  | mk next segment =>
    cases segment with
    | none => simp only [recvRawTcp, found]
    | some ip => simp only [recvRawTcp, found, ne_eq, foreign next ip found, not_false_eq_true,
        if_true]

/-- In fake TCP mode the promise about an accepted TCP packet comes down to its data offset. -/
theorem wellFormedReception_tcp_iff (mode : config.rawMode = .faketcp)
    (accepted : recvRawIp config capture raw = (next, some ip))
    (protocol : next.recvInfo.protocol = ipprotoTcp) :
    WellFormedReception config filterPort capture raw ↔
      DataOffsetInBounds capture ip ∨ OtherPort filterPort capture ip := by
  unfold WellFormedReception
  have tcp : recvRaw0 config filterPort = recvRawTcp config filterPort := by
    funext capture raw
    simp only [recvRaw0, mode]
  obtain ⟨start, inside⟩ := recvRawIp_inside accepted
  by_cases parsed : 0 < tcpDataOffset capture ip ∧ tcpDataOffset capture ip * 4 ≤ ip.length
  · by_cases port : capture.u16 (ip.offset + 2) = filterPort
    · simp only [tcp, recvRawTcp_payload accepted protocol parsed.1 parsed.2 port]
      constructor
      · intro formed
        have complete := formed.complete
        simp only [mode, RawMode.headerSize, tcpHeaderSize] at complete
        exact .inl ⟨by omega, parsed.2⟩
      · rintro (bounds | other)
        · have complete := bounds.1
          refine ⟨?_, ?_, fun stale => by rw [tcp, recvRawTcp_restale accepted bounds]⟩
          · simp only [mode, RawMode.headerSize, tcpHeaderSize]
            omega
          · simp only
            omega
        · exact absurd port other.2.2
    · simp only [tcp, recvRawTcp_otherPort accepted protocol ⟨parsed.1, parsed.2, port⟩]
      exact ⟨fun _ => .inr ⟨parsed.1, parsed.2, port⟩, fun _ => trivial⟩
  · simp only [tcp, recvRawTcp_untouched accepted protocol parsed, DataOffsetInBounds, OtherPort,
      false_iff]
    rintro (⟨complete, fits⟩ | ⟨positive, fits, -⟩) <;> exact parsed ⟨by omega, fits⟩

/-- The promise of the receive path is kept exactly under its condition: always in UDP and ICMP
mode, and in fake TCP mode when the data offset of a packet for this port is in bounds. -/
theorem recvRaw0_wellFormed_iff (config : RawConfig v) (filterPort : UInt16) (capture : Capture)
    (raw : RawInfo config) :
    WellFormedReception config filterPort capture raw ↔
      ReceptionCondition config filterPort capture raw := by
  by_cases mode : config.rawMode = .faketcp
  · by_cases tcp : ∃ next ip, recvRawIp config capture raw = (next, some ip) ∧
        next.recvInfo.protocol = ipprotoTcp
    · obtain ⟨next, ip, accepted, protocol⟩ := tcp
      rw [wellFormedReception_tcp_iff mode accepted protocol]
      constructor
      · intro bounds _ other segment found _
        obtain ⟨-, same⟩ := Prod.mk.inj (accepted.symm.trans found)
        rwa [← Option.some.inj same]
      · exact fun condition => condition mode next ip accepted protocol
    · have foreign : ∀ next ip, recvRawIp config capture raw = (next, some ip) →
          next.recvInfo.protocol ≠ ipprotoTcp := fun next ip accepted protocol =>
        tcp ⟨next, ip, accepted, protocol⟩
      constructor
      · exact fun _ _ next ip accepted protocol => absurd protocol (foreign next ip accepted)
      · intro _
        simp only [WellFormedReception, recvRaw0, mode, recvRawTcp_failed foreign]
  · exact ⟨fun _ faketcp => absurd faketcp mode, fun _ => wellFormedReception_of_checked mode⟩

/-- A fake TCP server on version four without further options. -/
def plainServer : RawConfig .ipv4 where
  rawMode := .faketcp
  programMode := .server
  bindAddr := none
  lowerLevel := false
  ttlValue := 64
  randomDrop := 0
  seqMode := 3
  maxRstAllowed := -1

/-- Metadata of all zeros. -/
def PacketInfo.zero : PacketInfo .ipv4 where
  protocol := 0
  newSrcIp := Vector.replicate 4 0
  newDstIp := Vector.replicate 4 0
  srcPort := 0
  dstPort := 0
  syn := false
  ack := false
  psh := false
  rst := false
  seq := 0
  ackSeq := 0
  ackSeqCounter := 0
  ts := 0
  tsAck := 0
  myIcmpSeq := 0
  hasTs := false
  dataLen := 0

/-- A connection of that server without any history. -/
def RawInfo.zero : RawInfo plainServer where
  sendInfo := .zero
  recvInfo := .zero
  peek := false
  reservedSendSeq := 0
  rstReceived := 0
  disabled := false
  disabledAllowed := fun impossible => nomatch impossible

/-- A segment from `10.0.0.1:1` to `10.0.0.2:4096` whose data offset is zero. -/
def zeroOffsetPacket : Bytes :=
  [0x45, 0, 0, 40, 0, 0, 0x40, 0, 64, 6, 0x26, 0xce, 10, 0, 0, 1, 10, 0, 0, 2,
    0, 1, 16, 0, 0, 0, 0, 0, 0, 0, 0, 0, 0, 16, 0, 0, 0, 0, 0, 0]

/-- That segment makes the receive path return zero without a payload. -/
theorem recvRaw0_zeroOffset :
    ¬WellFormedReception plainServer 4096 ⟨zeroOffsetPacket, fun _ => 0⟩ RawInfo.zero := by
  have returned : (recvRaw0 plainServer 4096 ⟨zeroOffsetPacket, fun _ => 0⟩ RawInfo.zero).2 =
      .untouched := by decide
  simp only [WellFormedReception, returned, not_false_eq_true]

end Udp2raw
