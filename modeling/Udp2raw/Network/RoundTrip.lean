import Udp2raw.Network.Receive
import Udp2raw.Network.Send
import Udp2raw.Network.WellFormed

/-!
# What one side sends the other side reads back

The bytes that `send_raw0` passes to the system, received unmodified by a peer of the
opposite role, make `recv_raw0` return the payload and the metadata of the sender, in every
mode and for both address families. A packet is read field by field: each field of a header
is a range of the packet that equals the encoding the builder wrote there.
-/
namespace Udp2raw

open OnesComplement

variable {v : IpVersion}

/-! ### Reading one field -/

namespace Capture

variable {capture : Capture} {offset : Nat}

/-- A range of the packet that equals a list of its length is read as that list. -/
theorem bytes_field {length : Nat} {field : Bytes}
    (range : (capture.packet.drop offset).take length = field) (size : field.length = length) :
    capture.bytes offset length = field := by
  by_cases empty : length = 0
  · subst empty
    simp [bytes, List.eq_nil_of_length_eq_zero size]
  · have covered := congrArg List.length range
    simp only [List.length_take, List.length_drop, size] at covered
    rw [bytes_inside _ (by omega), range]

/-- A byte of the packet. -/
theorem read_field (byte : UInt8) (range : (capture.packet.drop offset).take 1 = [byte]) :
    capture.read offset = byte := by
  have single := bytes_field range rfl
  simpa [bytes] using single

/-- A short that was written in network order. -/
theorem u16_field {value : UInt16}
    (range : (capture.packet.drop offset).take 2 = BigEndian.encode 2 value.toNat) :
    capture.u16 offset = value := by
  rw [u16, bytes_field range (by simp), BigEndian.decode_encode_of_lt value.toNat_lt]
  exact UInt16.ofNat_toNat

/-- A long that was written in network order. -/
theorem u32_field {value : UInt32}
    (range : (capture.packet.drop offset).take 4 = BigEndian.encode 4 value.toNat) :
    capture.u32 offset = value := by
  rw [u32, bytes_field range (by simp), BigEndian.decode_encode_of_lt value.toNat_lt]
  exact UInt32.ofNat_toNat

/-- An address. -/
theorem ip_field (addr : Ip v)
    (range : (capture.packet.drop offset).take v.addrLen = addr.toList) :
    capture.ip v offset = addr := by
  rw [ip, bytes_field range (by simp)]
  simpa using BlockModes.blockOf_append addr []

end Capture

/-- A version four address has four bytes. -/
theorem ipv4_length (addr : Ip .ipv4) : addr.toList.length = 4 := Vector.length_toList

/-- A version six address has sixteen bytes. -/
theorem ipv6_length (addr : Ip .ipv6) : addr.toList.length = 16 := Vector.length_toList

/-! ### The network layer -/

/-- A version four packet as the kernel sends it, with its total length and its header checksum
filled in. -/
def kernelFill (packet : Bytes) : Bytes :=
  let filled (check : Nat) := packet.take 2 ++ BigEndian.encode 2 packet.length ++
    (packet.drop 4).take 6 ++ word check ++ packet.drop 12
  filled (csum ((filled 0).take 20))

/-- A packet passed to `send_raw_packet` as it goes on the wire. -/
def onWire (config : RawConfig v) (packet : Bytes) : Bytes :=
  match v with
  | .ipv4 => if config.lowerLevel then packet else kernelFill packet
  | .ipv6 => packet

/-- The network header in front of a segment on the wire. -/
def wireHeader (config : RawConfig v) (info : PacketInfo v) (ipId : UInt16) (length : Nat) :
    Bytes :=
  match v with
  | .ipv4 => ipv4Header config info ipId (20 + length)
      (csum (ipv4Header config info ipId (20 + length) 0))
  | .ipv6 => ipv6Header config info length

/-- A version four header has twenty bytes. -/
@[simp] theorem ipv4Header_length (config : RawConfig .ipv4) (info : PacketInfo .ipv4)
    (ipId : UInt16) (totLen check : Nat) :
    (ipv4Header config info ipId totLen check).length = 20 := by
  simp [ipv4Header, ipv4_length, -Vector.length_toList]

/-- A version six header has forty bytes. -/
@[simp] theorem ipv6Header_length (config : RawConfig .ipv6) (info : PacketInfo .ipv6)
    (length : Nat) : (ipv6Header config info length).length = 40 := by
  simp [ipv6Header, ipv6_length, -Vector.length_toList]

/-- A network header on the wire has the fixed size. -/
theorem wireHeader_length (config : RawConfig v) (info : PacketInfo v) (ipId : UInt16)
    (length : Nat) : (wireHeader config info ipId length).length = v.headerSize := by
  cases v
  · exact ipv4Header_length ..
  · exact ipv6Header_length ..

/-- What `send_raw_ip` builds goes on the wire as a complete header and the segment. -/
theorem onWire_ipPacket (config : RawConfig v) (info : PacketInfo v) (ipId : UInt16)
    (segment : Bytes) :
    onWire config (ipPacket config info ipId segment) =
      wireHeader config info ipId segment.length ++ segment := by
  cases v
  · by_cases lower : config.lowerLevel
    · simp [onWire, ipPacket, wireHeader, lower, IpVersion.headerSize]
    · have total : (ipv4Header config info ipId 0 0 ++ segment).length = 20 + segment.length := by
        simp
      have filled : ∀ check, (ipv4Header config info ipId 0 0 ++ segment).take 2 ++
          BigEndian.encode 2 (20 + segment.length) ++
            ((ipv4Header config info ipId 0 0 ++ segment).drop 4).take 6 ++ word check ++
              (ipv4Header config info ipId 0 0 ++ segment).drop 12 =
          ipv4Header config info ipId (20 + segment.length) check ++ segment := by
        intro check
        simp [ipv4Header, word, List.drop_append, List.take_append, List.drop_of_length_le,
          List.take_of_length_le]
      simp only [onWire, ipPacket, wireHeader, lower, Bool.false_eq_true, if_false, kernelFill,
        total, filled, List.take_append_of_le_length (Nat.le_of_eq (ipv4Header_length ..).symm),
        List.take_of_length_le (Nat.le_of_eq (ipv4Header_length ..))]
  · rfl

/-- A version four header on the wire passes its check. -/
theorem csum_ipv4Header (config : RawConfig .ipv4) (info : PacketInfo .ipv4) (ipId : UInt16)
    (totLen : Nat) :
    csum (ipv4Header config info ipId totLen (csum (ipv4Header config info ipId totLen 0))) =
      0 := by
  have layout : ∀ check, ipv4Header config info ipId totLen check =
      ([0x45, 0] ++ BigEndian.encode 2 totLen ++ BigEndian.encode 2 ipId.toNat ++ [0x40, 0] ++
        [config.ttlValue, info.protocol]) ++ word check ++
          (info.newSrcIp.toList ++ info.newDstIp.toList) := by
    intro check
    simp [ipv4Header]
  have bound := wordSum_le (ipv4Header config info ipId totLen 0)
  rw [ipv4Header_length] at bound
  have stored := complement_stored 0 ([0x45, 0] ++ BigEndian.encode 2 totLen ++
    BigEndian.encode 2 ipId.toNat ++ [0x40, 0] ++ [config.ttlValue, info.protocol])
    (info.newSrcIp.toList ++ info.newDstIp.toList) (by simp)
    (by rw [← layout]; omega)
  rw [← layout, ← layout] at stored
  simpa only [csum, Nat.zero_add] using stored

/-- The metadata of the network layer of what a sender sent. -/
def PacketInfo.withIp (info sender : PacketInfo v) : PacketInfo v :=
  { info with
    newSrcIp := sender.newSrcIp, newDstIp := sender.newDstIp, protocol := sender.protocol }

/-- What a packet on the wire shows to the network layer of a receiver. -/
structure OnWire (capture : Capture) (info : PacketInfo v) (segment : Bytes) : Prop where
  /-- The version. -/
  version : (capture.read 0).toNat / 16 = v.number
  /-- The length of the header. -/
  headerLen : ipHeaderLen v capture = v.headerSize
  /-- The total length. -/
  totalLen : ipTotalLen v capture = v.headerSize + segment.length
  /-- The addresses and the protocol. -/
  read : ∀ old : PacketInfo v, old.readIp capture = old.withIp info
  /-- The header checksum. -/
  checked : v = .ipv4 → csum (capture.bytes 0 v.headerSize) = 0
  /-- The segment behind the header. -/
  behind : capture.packet.drop v.headerSize = segment
  /-- The length of the packet. -/
  length : capture.packet.length = v.headerSize + segment.length

/-- A version four packet on the wire shows what its sender put into it. -/
theorem wire_onWire_ipv4 (config : RawConfig .ipv4) (info : PacketInfo .ipv4) (ipId : UInt16)
    (segment : Bytes) (stale : Nat → UInt8) (fits : 20 + segment.length < 65536) :
    OnWire ⟨wireHeader config info ipId segment.length ++ segment, stale⟩ info segment := by
  have size : (wireHeader config info ipId segment.length).length = 20 := wireHeader_length ..
  have length : (wireHeader config info ipId segment.length ++ segment).length =
      20 + segment.length := by rw [List.length_append, size]
  have first : (⟨wireHeader config info ipId segment.length ++ segment, stale⟩ :
      Capture).read 0 = 0x45 := Capture.read_field _ (by simp [wireHeader, ipv4Header])
  have total : (⟨wireHeader config info ipId segment.length ++ segment, stale⟩ :
      Capture).u16 2 = UInt16.ofNat (20 + segment.length) := by
    apply Capture.u16_field
    rw [UInt16.toNat_ofNat', Nat.mod_eq_of_lt fits]
    simp [wireHeader, ipv4Header]
  refine ⟨by rw [first]; rfl, by rw [ipHeaderLen, first]; rfl, ?_, ?_, ?_, ?_, length⟩
  · rw [ipTotalLen, total, UInt16.toNat_ofNat', Nat.mod_eq_of_lt fits]
    rfl
  · intro old
    rw [PacketInfo.readIp, PacketInfo.withIp, Capture.ip_field info.newSrcIp,
      Capture.ip_field info.newDstIp, Capture.read_field info.protocol]
    · simp [wireHeader, ipv4Header, List.drop_append, List.drop_of_length_le]
    · change List.take 4 _ = _
      simp [wireHeader, ipv4Header, word, List.drop_append, List.drop_of_length_le, ipv4_length,
        -Vector.length_toList]
    · change List.take 4 _ = _
      simp [wireHeader, ipv4Header, word, List.drop_append, List.drop_of_length_le, ipv4_length,
        -Vector.length_toList]
  · intro _
    change csum (Capture.bytes _ 0 20) = 0
    rw [Capture.bytes_inside _ (by simp only; omega), List.drop_zero,
      List.take_append_of_le_length (Nat.le_of_eq size.symm),
      List.take_of_length_le (Nat.le_of_eq size)]
    exact csum_ipv4Header ..
  · change List.drop 20 _ = _
    rw [← size, List.drop_left]

/-- A version six packet on the wire shows what its sender put into it. -/
theorem wire_onWire_ipv6 (config : RawConfig .ipv6) (info : PacketInfo .ipv6) (ipId : UInt16)
    (segment : Bytes) (stale : Nat → UInt8) (fits : segment.length < 65536) :
    OnWire ⟨wireHeader config info ipId segment.length ++ segment, stale⟩ info segment := by
  have size : (wireHeader config info ipId segment.length).length = 40 := wireHeader_length ..
  have length : (wireHeader config info ipId segment.length ++ segment).length =
      40 + segment.length := by rw [List.length_append, size]
  have first : (⟨wireHeader config info ipId segment.length ++ segment, stale⟩ :
      Capture).read 0 = 0x60 := Capture.read_field _ (by simp [wireHeader, ipv6Header])
  have total : (⟨wireHeader config info ipId segment.length ++ segment, stale⟩ :
      Capture).u16 4 = UInt16.ofNat segment.length := by
    apply Capture.u16_field
    rw [UInt16.toNat_ofNat', Nat.mod_eq_of_lt fits]
    simp [wireHeader, ipv6Header]
  refine ⟨by rw [first]; rfl, rfl, ?_, ?_, nofun, ?_, length⟩
  · rw [ipTotalLen, total, UInt16.toNat_ofNat', Nat.mod_eq_of_lt fits, Nat.add_comm]
    rfl
  · intro old
    rw [PacketInfo.readIp, PacketInfo.withIp, Capture.ip_field info.newSrcIp,
      Capture.ip_field info.newDstIp, Capture.read_field info.protocol]
    · simp [wireHeader, ipv6Header]
    · change List.take 16 _ = _
      simp [wireHeader, ipv6Header, List.drop_append, List.drop_of_length_le, ipv6_length,
        -Vector.length_toList]
    · change List.take 16 _ = _
      simp [wireHeader, ipv6Header, List.drop_append, List.drop_of_length_le, ipv6_length,
        -Vector.length_toList]
  · change List.drop 40 _ = _
    rw [← size, List.drop_left]

/-- A packet on the wire shows what its sender put into it. -/
theorem wire_onWire (config : RawConfig v) (info : PacketInfo v) (ipId : UInt16) (segment : Bytes)
    (stale : Nat → UInt8) (fits : v.headerSize + segment.length < 65536) :
    OnWire ⟨wireHeader config info ipId segment.length ++ segment, stale⟩ info segment := by
  cases v
  · exact wire_onWire_ipv4 config info ipId segment stale fits
  · simp only [IpVersion.headerSize] at fits
    exact wire_onWire_ipv6 config info ipId segment stale (by omega)

variable {capture : Capture} {info : PacketInfo v} {segment : Bytes}

/-- The network layer accepts a packet on the wire for its address. -/
theorem OnWire.recvRawIp (wire : OnWire capture info segment) {peer : RawConfig v}
    (receiver : RawInfo peer) (bound : ∀ addr, peer.bindAddr = some addr → info.newDstIp = addr) :
    recvRawIp peer capture receiver =
      ({ receiver with recvInfo := receiver.recvInfo.withIp info },
        some ⟨v.headerSize, segment.length⟩) := by
  have length := wire.length
  refine recvRawIp_eq_some_iff.mpr ⟨⟨wire.version, by omega, ?_, ?_, ?_, ?_⟩, ?_, ?_⟩
  · intro addr used
    rw [wire.read]
    exact bound addr used
  · rw [wire.totalLen]
    omega
  · intro family _
    rw [wire.headerLen]
    exact wire.checked family
  · rw [wire.totalLen, wire.headerLen]
    omega
  · rw [wire.read]
  · rw [wire.totalLen, wire.headerLen, Nat.add_sub_cancel_left]

/-- What lies at a place of the segment lies behind the header in the packet. -/
theorem OnWire.drop (wire : OnWire capture info segment) (place : Nat) :
    capture.packet.drop (v.headerSize + place) = segment.drop place := by
  rw [← List.drop_drop, wire.behind]

/-- The whole segment is the payload of the network layer. -/
theorem OnWire.whole (wire : OnWire capture info segment) :
    capture.segment ⟨v.headerSize, segment.length⟩ = segment := by
  apply Capture.bytes_field _ rfl
  rw [wire.behind, List.take_length]

/-- The rest of the segment is the payload of the transport layer. -/
theorem OnWire.payload (wire : OnWire capture info segment) (header : Bytes) {payload : Bytes}
    (layout : segment = header ++ payload) :
    capture.segment ⟨v.headerSize + header.length, segment.length - header.length⟩ = payload := by
  have rest : segment.length - header.length = payload.length := by simp [layout]
  apply Capture.bytes_field _ rest.symm
  simp only [wire.drop, rest]
  rw [layout, List.drop_left, List.take_length]

/-- A segment that stores its checksum passes the check of the receiver. -/
theorem OnWire.transportChecksum (wire : OnWire capture info segment) (old : PacketInfo v)
    {protocol : UInt8} {layout : Nat → Bytes} {before after : Bytes}
    (shape : ∀ check, layout check = before ++ word check ++ after)
    (even : before.length % 2 = 0)
    (stored : segment = layout (segmentChecksum info protocol layout))
    (fits : segment.length < 65536) :
    transportChecksum capture (old.withIp info) protocol ⟨v.headerSize, segment.length⟩ = 0 := by
  have same : (layout 0).length = segment.length := by rw [stored, shape, shape]; simp
  have pseudo := wordSum_le (pseudoHeader info.newSrcIp info.newDstIp protocol segment.length)
  have sum := wordSum_le (layout 0)
  have short : (pseudoHeader info.newSrcIp info.newDstIp protocol segment.length).length ≤ 40 := by
    cases v
    · simp [pseudoHeader, ipv4_length, -Vector.length_toList]
    · simp [pseudoHeader, ipv6_length, -Vector.length_toList]
  have checks := complement_stored
    (wordSum (pseudoHeader info.newSrcIp info.newDstIp protocol segment.length)) before after even
    (by rw [← shape]; omega)
  have value : segmentChecksum info protocol layout = complement
      (wordSum (pseudoHeader info.newSrcIp info.newDstIp protocol segment.length) +
        wordSum (layout 0)) := by rw [segmentChecksum, csumWithHeader, same]
  rw [← shape, ← shape, ← value, ← stored] at checks
  rw [Udp2raw.transportChecksum, wire.whole]
  exact checks

/-! ### The transport layers -/

section Fields

variable {ptr : Nat}

/-- A byte of the segment. -/
theorem OnWire.read_at (wire : OnWire capture info segment) (place : Nat) {byte : UInt8}
    (here : ptr = v.headerSize + place) (range : (segment.drop place).take 1 = [byte]) :
    capture.read ptr = byte := by
  rw [here]
  exact Capture.read_field _ (by rw [wire.drop, range])

/-- A short of the segment. -/
theorem OnWire.u16_at (wire : OnWire capture info segment) (place : Nat) {value : UInt16}
    (here : ptr = v.headerSize + place)
    (range : (segment.drop place).take 2 = BigEndian.encode 2 value.toNat) :
    capture.u16 ptr = value := by
  rw [here]
  exact Capture.u16_field (by rw [wire.drop, range])

/-- A long of the segment. -/
theorem OnWire.u32_at (wire : OnWire capture info segment) (place : Nat) {value : UInt32}
    (here : ptr = v.headerSize + place)
    (range : (segment.drop place).take 4 = BigEndian.encode 4 value.toNat) :
    capture.u32 ptr = value := by
  rw [here]
  exact Capture.u32_field (by rw [wire.drop, range])

end Fields

section Options

variable {ptr optionEnd : Nat} {old : PacketInfo v}

/-- The options end where they end. -/
theorem parseTcpOptions_end : parseTcpOptions capture optionEnd optionEnd old = (0, old) := by
  rw [parseTcpOptions, if_neg (Nat.lt_irrefl _)]

/-- A padding byte is skipped. -/
theorem parseTcpOptions_skip (more : ptr < optionEnd) (kind : capture.read ptr = 1) :
    parseTcpOptions capture ptr optionEnd old =
      parseTcpOptions capture (ptr + 1) optionEnd old := by
  rw [parseTcpOptions]
  simp [more, kind]

/-- An option of another kind is skipped by its length. -/
theorem parseTcpOptions_other {kind : UInt8} (len : Nat) (more : ptr + 1 < optionEnd)
    (first : capture.read ptr = kind) (second : capture.read (ptr + 1) = UInt8.ofNat len)
    (unknown : kind ≠ 0 ∧ kind ≠ 1 ∧ kind ≠ 8) (long : 1 < len ∧ len < 256) :
    parseTcpOptions capture ptr optionEnd old =
      parseTcpOptions capture (ptr + len) optionEnd old := by
  have value : (UInt8.ofNat len).toNat = len := by
    rw [UInt8.toNat_ofNat', Nat.mod_eq_of_lt long.2]
  rw [parseTcpOptions]
  simp [first, second, value, unknown, Nat.not_le.mpr more, Nat.not_le.mpr long.1,
    show ptr < optionEnd by omega]

/-- A timestamp option is stored. -/
theorem parseTcpOptions_stamp {ts tsAck : UInt32} (more : ptr + 10 ≤ optionEnd)
    (first : capture.read ptr = 8) (second : capture.read (ptr + 1) = 10)
    (stamp : capture.u32 (ptr + 2) = ts) (echo : capture.u32 (ptr + 6) = tsAck) :
    parseTcpOptions capture ptr optionEnd old =
      parseTcpOptions capture (ptr + 10) optionEnd { old with hasTs := true, ts, tsAck } := by
  rw [parseTcpOptions]
  simp [first, second, stamp, echo, Nat.not_lt.mpr more, show ptr < optionEnd by omega,
    show ¬optionEnd ≤ ptr + 1 by omega]

end Options

/-- The options of a sent segment stand behind its fixed header. -/
theorem tcpSegment_options (info : PacketInfo v) (env : SendEnv) (payload : Bytes) (check : Nat) :
    (tcpSegment info env payload check).drop 20 =
      tcpOptions info.syn (UInt32.ofNat env.now) info.tsAck ++ payload := by
  simp [tcpSegment, word, List.drop_append, List.drop_of_length_le]

/-- The options of a sent segment carry its timestamps, whether it opens a connection or not. -/
theorem OnWire.parseTcpOption {env : SendEnv} {payload : Bytes} {check : Nat}
    (wire : OnWire capture info (tcpSegment info env payload check)) (old : PacketInfo v) :
    (parseTcpOption capture (v.headerSize + 20) (v.headerSize + tcpDoff info.syn * 4) old).2 =
      { old with hasTs := true, ts := UInt32.ofNat env.now, tsAck := info.tsAck } := by
  have options := tcpSegment_options info env payload check
  have option : ∀ place, capture.packet.drop (v.headerSize + 20 + place) =
      (tcpOptions info.syn (UInt32.ofNat env.now) info.tsAck ++ payload).drop place := by
    intro place
    rw [← options, List.drop_drop, Nat.add_assoc, wire.drop]
  unfold Udp2raw.parseTcpOption
  cases syn : info.syn with
  | false =>
    have first : capture.read (v.headerSize + 20) = 1 :=
      Capture.read_field _ (by simpa [tcpOptions, syn] using congrArg (List.take 1) (option 0))
    have second : capture.read (v.headerSize + 20 + 1) = 1 :=
      Capture.read_field _ (by simp [option, tcpOptions, syn])
    have kind : capture.read (v.headerSize + 20 + 2) = 8 :=
      Capture.read_field _ (by simp [option, tcpOptions, syn])
    have len : capture.read (v.headerSize + 20 + 3) = 10 :=
      Capture.read_field _ (by simp [option, tcpOptions, syn])
    have stamp : capture.u32 (v.headerSize + 20 + 4) = UInt32.ofNat env.now :=
      Capture.u32_field (by simp [option, tcpOptions, syn])
    have echo : capture.u32 (v.headerSize + 20 + 8) = info.tsAck :=
      Capture.u32_field (by simp [option, tcpOptions, syn])
    rw [parseTcpOptions_skip (by simp [tcpDoff]) first,
      parseTcpOptions_skip (by simp [tcpDoff]) second,
      parseTcpOptions_stamp (by simp [tcpDoff]) kind len stamp echo]
    exact congrArg Prod.snd (parseTcpOptions_end ..)
  | true =>
    have mss : capture.read (v.headerSize + 20) = 2 :=
      Capture.read_field _ (by simpa [tcpOptions, syn] using congrArg (List.take 1) (option 0))
    have mssLen : capture.read (v.headerSize + 20 + 1) = 4 :=
      Capture.read_field _ (by simp [option, tcpOptions, syn])
    have sack : capture.read (v.headerSize + 20 + 4) = 4 :=
      Capture.read_field _ (by simp [option, tcpOptions, syn])
    have sackLen : capture.read (v.headerSize + 20 + 5) = 2 :=
      Capture.read_field _ (by simp [option, tcpOptions, syn])
    have kind : capture.read (v.headerSize + 20 + 6) = 8 :=
      Capture.read_field _ (by simp [option, tcpOptions, syn])
    have len : capture.read (v.headerSize + 20 + 7) = 10 :=
      Capture.read_field _ (by simp [option, tcpOptions, syn])
    have stamp : capture.u32 (v.headerSize + 20 + 8) = UInt32.ofNat env.now :=
      Capture.u32_field (by simp [option, tcpOptions, syn])
    have echo : capture.u32 (v.headerSize + 20 + 12) = info.tsAck :=
      Capture.u32_field (by simp [option, tcpOptions, syn])
    have pad : capture.read (v.headerSize + 20 + 16) = 1 :=
      Capture.read_field _ (by
        simp [option, tcpOptions, syn, List.drop_append, List.drop_of_length_le])
    have scale : capture.read (v.headerSize + 20 + 17) = 3 :=
      Capture.read_field _ (by
        simp [option, tcpOptions, syn, List.drop_append, List.drop_of_length_le])
    have scaleLen : capture.read (v.headerSize + 20 + 18) = 3 :=
      Capture.read_field _ (by
        simp [option, tcpOptions, syn, List.drop_append, List.drop_of_length_le])
    rw [parseTcpOptions_other 4 (by simp [tcpDoff]) mss mssLen (by decide) (by decide),
      parseTcpOptions_other 2 (by simp [tcpDoff]) sack sackLen (by decide) (by decide),
      parseTcpOptions_stamp (by simp [tcpDoff]) kind len stamp echo,
      parseTcpOptions_skip (by simp [tcpDoff]) pad,
      parseTcpOptions_other 3 (by simp [tcpDoff]) scale scaleLen (by decide) (by decide)]
    exact congrArg Prod.snd (parseTcpOptions_end ..)

/-- The metadata that a fake TCP packet carries over. -/
structure CarriesTcp (sender received : PacketInfo v) (now : Nat) : Prop where
  /-- The ports. -/
  ports : received.srcPort = sender.srcPort ∧ received.dstPort = sender.dstPort
  /-- The flags that are sent, and no reset. -/
  flags : received.syn = sender.syn ∧ received.ack = sender.ack ∧ received.psh = sender.psh ∧
    received.rst = false
  /-- The sequence numbers. -/
  seqs : received.seq = sender.seq ∧ received.ackSeq = sender.ackSeq
  /-- The timestamp option. -/
  stamps : received.hasTs = true ∧ received.ts = UInt32.ofNat now ∧ received.tsAck = sender.tsAck

/-- The metadata that the packets of each mode carry over. -/
def Carries (rawMode : RawMode) (now : Nat) (sender received : PacketInfo v) : Prop :=
  received.newSrcIp = sender.newSrcIp ∧ received.newDstIp = sender.newDstIp ∧
    match rawMode with
    | .faketcp => CarriesTcp sender received now
    | .udp => received.srcPort = sender.srcPort ∧ received.dstPort = sender.dstPort
    | .icmp => received.srcPort = sender.srcPort ∧ received.dstPort = sender.srcPort ∧
        received.myIcmpSeq = sender.myIcmpSeq

/-- A receiver returned this payload and metadata that carries over what was sent. -/
def Delivers {peer : RawConfig v} (capture : Capture) (rawMode : RawMode) (now : Nat)
    (sender : PacketInfo v) (payload : Bytes) (result : RawInfo peer × Received) : Prop :=
  Carries rawMode now sender result.1.recvInfo ∧
    ∃ segment, result.2 = .payload segment ∧ capture.segment segment = payload

section Accepts

variable {config : RawConfig v} {raw next : RawInfo config} {ip : Segment} {filterPort : UInt16}

/-- What the UDP parser returns when every check passes. -/
theorem recvRawUdp_eq (accepted : recvRawIp config capture raw = (next, some ip))
    (protocol : next.recvInfo.protocol = ipprotoUdp) (long : udpHeaderSize ≤ ip.length)
    (length : (capture.u16 (ip.offset + 4)).toNat = ip.length)
    (port : capture.u16 (ip.offset + 2) = filterPort)
    (check : transportChecksum capture next.recvInfo ipprotoUdp ip = 0) :
    recvRawUdp config filterPort capture raw =
      ({ next with
          recvInfo :=
            { next.recvInfo with srcPort := capture.u16 ip.offset, dstPort := filterPort } },
        .payload ⟨ip.offset + udpHeaderSize, ip.length - udpHeaderSize⟩) := by
  simp [recvRawUdp, accepted, protocol, Nat.not_lt.mpr long, length, port, check]

/-- The metadata of the network layer with what the ICMP parser adds. -/
def PacketInfo.withIcmp (info : PacketInfo v) (id seq : UInt16) : PacketInfo v :=
  { info with srcPort := id, dstPort := id, myIcmpSeq := seq }

/-- What the ICMP parser returns when every check passes. -/
theorem recvRawIcmp_eq (accepted : recvRawIp config capture raw = (next, some ip))
    (protocol : next.recvInfo.protocol = v.icmpProtocol) (long : icmpHeaderSize ≤ ip.length)
    (identifier : capture.u16 (ip.offset + 4) = next.sendInfo.srcPort)
    (code : capture.read (ip.offset + 1) = 0)
    (kind : capture.read ip.offset = receivedIcmpType v config.programMode)
    (check : icmpChecksum capture (next.recvInfo.withIcmp next.sendInfo.srcPort
      (capture.u16 (ip.offset + 6))) ip = 0) :
    recvRawIcmp config capture raw =
      ({ next with
          recvInfo :=
            next.recvInfo.withIcmp next.sendInfo.srcPort (capture.u16 (ip.offset + 6)) },
        .payload ⟨ip.offset + icmpHeaderSize, ip.length - icmpHeaderSize⟩) := by
  simp only [PacketInfo.withIcmp, protocol] at check ⊢
  simp only [recvRawIcmp, accepted, protocol, ne_eq, not_true_eq_false, if_false,
    Nat.not_lt.mpr long, identifier, code, kind, check]

/-- What the TCP parser returns when it reaches the end. -/
theorem recvRawTcp_eq (accepted : recvRawIp config capture raw = (next, some ip))
    (protocol : next.recvInfo.protocol = ipprotoTcp) (bounds : DataOffsetInBounds capture ip)
    (port : capture.u16 (ip.offset + 2) = filterPort) :
    recvRawTcp config filterPort capture raw =
      (next.storeTcp ((parseTcpOption capture (ip.offset + tcpHeaderSize)
          (ip.offset + tcpDataOffset capture ip * 4) next.recvInfo).2.readTcp capture ip.offset)
        (ip.length - tcpDataOffset capture ip * 4),
        .payload ⟨ip.offset + tcpDataOffset capture ip * 4,
          ip.length - tcpDataOffset capture ip * 4⟩) := by
  obtain ⟨complete, fits⟩ := bounds
  have bits := tcpDataOffset_lt capture ip
  simp only [tcpDataOffset] at complete fits bits ⊢
  have range : 0 < (capture.read (ip.offset + 12)).toNat / 16 * 4 ∧
      (capture.read (ip.offset + 12)).toNat / 16 * 4 ≤ 60 := by omega
  simp only [recvRawTcp, accepted, protocol, ne_eq, not_true_eq_false, if_false, range, and_self,
    Nat.not_lt.mpr fits, port]

end Accepts

section Transport

variable {peer : RawConfig v} {receiver : RawInfo peer} {payload : Bytes}

/-- A datagram has a header and the payload. -/
theorem udpSegment_length (info : PacketInfo v) (payload : Bytes) (check : Nat) :
    (udpSegment info payload check).length = payload.length + udpHeaderSize := by
  simp only [udpSegment, udpHeaderSize, List.length_append, BigEndian.encode_length, word_length]
  omega

/-- An echo packet has a header and the payload. -/
theorem icmpSegment_length (config : RawConfig v) (info : PacketInfo v) (payload : Bytes)
    (check : Nat) :
    (icmpSegment config info payload check).length = payload.length + icmpHeaderSize := by
  simp only [icmpSegment, icmpHeaderSize, List.length_append, BigEndian.encode_length,
    word_length, List.length_cons, List.length_nil]
  omega

/-- A sent datagram is delivered. -/
theorem OnWire.recvRawUdp (now : Nat)
    (wire : OnWire capture info
      (udpSegment info payload (segmentChecksum info ipprotoUdp (udpSegment info payload))))
    (bound : ∀ addr, peer.bindAddr = some addr → info.newDstIp = addr)
    (protocol : info.protocol = ipprotoUdp) (fits : payload.length + udpHeaderSize < 65536) :
    Delivers capture .udp now info payload
      (recvRawUdp peer info.dstPort capture receiver) := by
  have size := udpSegment_length info payload
  have src : capture.u16 v.headerSize = info.srcPort := wire.u16_at 0 rfl (by simp [udpSegment])
  have dst : capture.u16 (v.headerSize + 2) = info.dstPort :=
    wire.u16_at 2 rfl (by simp [udpSegment])
  have lenNat : (UInt16.ofNat (payload.length + udpHeaderSize)).toNat =
      payload.length + udpHeaderSize := by rw [UInt16.toNat_ofNat', Nat.mod_eq_of_lt fits]
  have len : capture.u16 (v.headerSize + 4) = UInt16.ofNat (payload.length + udpHeaderSize) := by
    refine wire.u16_at 4 rfl ?_
    rw [lenNat]
    simp [udpSegment, List.drop_append, List.drop_of_length_le]
  have check := wire.transportChecksum receiver.recvInfo (fun check => rfl)
    (by simp) rfl (by rw [size]; exact fits)
  have behind := wire.payload (BigEndian.encode 2 info.srcPort.toNat ++
    BigEndian.encode 2 info.dstPort.toNat ++ BigEndian.encode 2 (payload.length + udpHeaderSize) ++
      word (segmentChecksum info ipprotoUdp (udpSegment info payload))) rfl
  rw [recvRawUdp_eq (wire.recvRawIp receiver bound) protocol (by simp only [size]; omega)
    (by simp only [len, lenNat, size]) dst check]
  exact ⟨⟨rfl, rfl, src, rfl⟩, _, rfl, by simpa [udpHeaderSize, size] using behind⟩

/-- An echo packet that stores its checksum passes the check of the receiver. -/
theorem OnWire.icmpChecksum {config : RawConfig v}
    (wire : OnWire capture info (icmpSegment config info payload
      (icmpSegmentChecksum info (icmpSegment config info payload))))
    (old : PacketInfo v) (id seq : UInt16)
    (fits : (icmpSegment config info payload 0).length < 65536) :
    icmpChecksum capture ((old.withIp info).withIcmp id seq)
      ⟨v.headerSize, (icmpSegment config info payload
        (icmpSegmentChecksum info (icmpSegment config info payload))).length⟩ = 0 := by
  have shape : ∀ check, icmpSegment config info payload check =
      [sentIcmpType v config.programMode, 0] ++ word check ++
        (BigEndian.encode 2 info.srcPort.toNat ++ BigEndian.encode 2 info.myIcmpSeq.toNat ++
          payload) := by
    intro check
    simp [icmpSegment]
  cases v
  · have sum := wordSum_le (icmpSegment config info payload 0)
    have checks := complement_stored 0 [sentIcmpType .ipv4 config.programMode, 0]
      (BigEndian.encode 2 info.srcPort.toNat ++ BigEndian.encode 2 info.myIcmpSeq.toNat ++
        payload) (by simp) (by rw [← shape]; omega)
    rw [← shape, ← shape] at checks
    simp only [Nat.zero_add] at checks
    rw [Udp2raw.icmpChecksum, wire.whole]
    exact checks
  · rw [Udp2raw.icmpChecksum]
    exact wire.transportChecksum (old.withIcmp id seq) shape (by simp) rfl
      (by rw [shape]; rw [shape] at fits; simpa using fits)

/-- A sent echo packet is delivered to the opposite role. -/
theorem OnWire.recvRawIcmp (now : Nat) {config : RawConfig v}
    (wire : OnWire capture info (icmpSegment config info payload
      (icmpSegmentChecksum info (icmpSegment config info payload))))
    (bound : ∀ addr, peer.bindAddr = some addr → info.newDstIp = addr)
    (protocol : info.protocol = v.icmpProtocol) (fits : payload.length + icmpHeaderSize < 65536)
    (role : peer.programMode ≠ config.programMode)
    (identifier : receiver.sendInfo.srcPort = info.srcPort) :
    Delivers capture .icmp now info payload (recvRawIcmp peer capture receiver) := by
  have size := icmpSegment_length config info payload
  have expected : receivedIcmpType v peer.programMode = sentIcmpType v config.programMode := by
    cases v <;> cases sender : config.programMode <;> cases other : peer.programMode <;>
      first | rfl | exact absurd (other.trans sender.symm) role
  have kind : capture.read v.headerSize = receivedIcmpType v peer.programMode :=
    wire.read_at 0 rfl (by simp [icmpSegment, expected])
  have code : capture.read (v.headerSize + 1) = 0 := wire.read_at 1 rfl (by simp [icmpSegment])
  have id : capture.u16 (v.headerSize + 4) = info.srcPort :=
    wire.u16_at 4 rfl (by simp [icmpSegment, word])
  have seq : capture.u16 (v.headerSize + 6) = info.myIcmpSeq :=
    wire.u16_at 6 rfl (by simp [icmpSegment, word])
  have check := wire.icmpChecksum receiver.recvInfo receiver.sendInfo.srcPort
    (capture.u16 (v.headerSize + 6)) (by rw [size]; exact fits)
  have behind := wire.payload ([sentIcmpType v config.programMode, 0] ++
    word (icmpSegmentChecksum info (icmpSegment config info payload)) ++
      BigEndian.encode 2 info.srcPort.toNat ++ BigEndian.encode 2 info.myIcmpSeq.toNat) rfl
  rw [recvRawIcmp_eq (wire.recvRawIp receiver bound) protocol (by simp only [size]; omega)
    (id.trans identifier.symm) code kind check]
  exact ⟨⟨rfl, rfl, identifier, identifier, seq⟩, _, rfl,
    by simpa [icmpHeaderSize, size] using behind⟩

/-- The header of a sent segment. -/
def tcpHeader (info : PacketInfo v) (env : SendEnv) (check : Nat) : Bytes :=
  tcpSegment info env [] check

/-- A sent segment is its header and its payload. -/
theorem tcpSegment_eq (info : PacketInfo v) (env : SendEnv) (payload : Bytes) (check : Nat) :
    tcpSegment info env payload check = tcpHeader info env check ++ payload := by
  simp [tcpHeader, tcpSegment]

/-- The header of a sent segment has the length its data offset says. -/
theorem tcpHeader_length (info : PacketInfo v) (env : SendEnv) (check : Nat) :
    (tcpHeader info env check).length = tcpDoff info.syn * 4 := by
  cases syn : info.syn <;> simp [tcpHeader, tcpSegment, tcpOptions, tcpDoff, syn]

/-- A sent segment is delivered. -/
theorem OnWire.recvRawTcp {env : SendEnv}
    (wire : OnWire capture info
      (tcpSegment info env payload (segmentChecksum info ipprotoTcp (tcpSegment info env payload))))
    (bound : ∀ addr, peer.bindAddr = some addr → info.newDstIp = addr)
    (protocol : info.protocol = ipprotoTcp) :
    Delivers capture .faketcp env.now info payload
      (recvRawTcp peer info.dstPort capture receiver) := by
  have size : ∀ check, (tcpSegment info env payload check).length =
      tcpDoff info.syn * 4 + payload.length := by
    intro check
    rw [tcpSegment_eq, List.length_append, tcpHeader_length]
  have src : capture.u16 v.headerSize = info.srcPort := wire.u16_at 0 rfl (by simp [tcpSegment])
  have dst : capture.u16 (v.headerSize + 2) = info.dstPort :=
    wire.u16_at 2 rfl (by simp [tcpSegment])
  have seq : capture.u32 (v.headerSize + 4) = info.seq :=
    wire.u32_at 4 rfl (by simp [tcpSegment, List.drop_append, List.drop_of_length_le])
  have ackSeq : capture.u32 (v.headerSize + 8) = info.ackSeq :=
    wire.u32_at 8 rfl (by simp [tcpSegment, List.drop_append, List.drop_of_length_le])
  have doff : capture.read (v.headerSize + 12) = UInt8.ofNat (16 * tcpDoff info.syn) :=
    wire.read_at 12 rfl (by simp [tcpSegment, List.drop_append, List.drop_of_length_le])
  have flags : capture.read (v.headerSize + 13) = tcpFlags info :=
    wire.read_at 13 rfl (by simp [tcpSegment, List.drop_append, List.drop_of_length_le])
  have offset : ∀ length, tcpDataOffset capture ⟨v.headerSize, length⟩ = tcpDoff info.syn := by
    intro length
    simp only [tcpDataOffset, doff]
    cases info.syn <;> rfl
  have bounds : DataOffsetInBounds capture ⟨v.headerSize, (tcpSegment info env payload
      (segmentChecksum info ipprotoTcp (tcpSegment info env payload))).length⟩ := by
    simp only [DataOffsetInBounds, offset, size]
    cases info.syn <;> simp only [tcpDoff, Bool.false_eq_true, if_false, if_true] <;> omega
  have options := wire.parseTcpOption (receiver.recvInfo.withIp info)
  have behind := wire.payload _ (tcpSegment_eq info env payload
    (segmentChecksum info ipprotoTcp (tcpSegment info env payload)))
  rw [recvRawTcp_eq (wire.recvRawIp receiver bound) protocol bounds dst]
  simp only [offset, size, tcpHeader_length, tcpHeaderSize] at behind ⊢
  refine ⟨?_, _, rfl, behind⟩
  rw [RawInfo.storeTcp_recvInfo, options]
  simp only [Carries, PacketInfo.readTcp, PacketInfo.withIp, tcpFlag, src, dst, seq, ackSeq, flags,
    true_and]
  refine ⟨⟨rfl, rfl⟩, ?_, ⟨rfl, rfl⟩, ⟨rfl, rfl, rfl⟩⟩
  cases syn : info.syn <;> cases ack : info.ack <;> cases psh : info.psh <;>
    simp only [tcpFlags, syn, ack, psh] <;> decide

end Transport

/-! ### The round trip -/

/-- The length of the transport header that a mode sends. -/
def RawMode.sentHeaderSize (rawMode : RawMode) (syn : Bool) : Nat :=
  match rawMode with
  | .faketcp => tcpDoff syn * 4
  | .udp => udpHeaderSize
  | .icmp => icmpHeaderSize

section Sent

variable {config : RawConfig v} {env : SendEnv} {raw : RawInfo config} {payload packet : Bytes}
  {sent : Sent config}

/-- What `send_raw_ip` passes on is its packet. -/
theorem sendRawIp_packet (ran : sendRawIp config env raw payload = .ok sent)
    (passed : sent.packet = some packet) :
    packet = ipPacket config raw.sendInfo env.ipId payload := by
  unfold sendRawIp at ran
  by_cases stopped : raw.disabled
  · simp only [stopped, if_true, assert, decide_eq_true (raw.disabledAllowed stopped), bind,
      Except.bind, Except.ok.injEq] at ran
    rw [← ran] at passed
    simp at passed
  · simp only [stopped, Bool.false_eq_true, if_false, Except.ok.injEq] at ran
    rw [← ran] at passed
    exact (Option.some.inj passed).symm

/-- The segment that a mode's builder passes to the network layer. -/
def sentSegment (config : RawConfig v) (env : SendEnv) (info : PacketInfo v) (payload : Bytes) :
    Bytes :=
  match config.rawMode with
  | .faketcp =>
    tcpSegment info env payload (segmentChecksum info ipprotoTcp (tcpSegment info env payload))
  | .udp => udpSegment info payload (segmentChecksum info ipprotoUdp (udpSegment info payload))
  | .icmp => icmpSegment config info payload
      (icmpSegmentChecksum info (icmpSegment config info payload))

/-- What `send_raw0` passes on is the packet of its mode's segment. -/
theorem sendRaw0_packet (ran : sendRaw0 config env raw payload = .ok sent)
    (passed : sent.packet = some packet) :
    packet = ipPacket config raw.sendInfo env.ipId
      (sentSegment config env raw.sendInfo payload) := by
  unfold sendRaw0 at ran
  split_ifs at ran
  · obtain rfl := Except.ok.inj ran
    simp at passed
  · cases mode : config.rawMode with
    | faketcp =>
      simp only [mode, sendRawTcp, bind, Except.bind] at ran
      cases inner : sendRawIp config env raw (tcpSegment raw.sendInfo env payload
          (segmentChecksum raw.sendInfo ipprotoTcp (tcpSegment raw.sendInfo env payload))) with
      | error fault => simp [inner] at ran
      | ok result =>
        simp only [inner] at ran
        have same : sent.packet = result.packet := by
          split_ifs at ran <;> obtain rfl := Except.ok.inj ran <;> rfl
        simpa only [sentSegment, mode] using sendRawIp_packet inner (same.symm.trans passed)
    | udp =>
      simp only [mode, sendRawUdp] at ran
      split_ifs at ran
      · obtain rfl := Except.ok.inj ran
        simp at passed
      · cases inner : sendRawIp config env raw (udpSegment raw.sendInfo payload
            (segmentChecksum raw.sendInfo ipprotoUdp (udpSegment raw.sendInfo payload))) with
        | error fault => simp [inner, bind, Except.bind] at ran
        | ok result =>
          simp only [inner, bind, Except.bind] at ran
          have same : sent.packet = result.packet := by
            split_ifs at ran <;> obtain rfl := Except.ok.inj ran <;> rfl
          simpa only [sentSegment, mode] using sendRawIp_packet inner (same.symm.trans passed)
    | icmp =>
      simp only [mode, sendRawIcmp, bind, Except.bind] at ran
      cases inner : sendRawIp config env raw (icmpSegment config raw.sendInfo payload
          (icmpSegmentChecksum raw.sendInfo (icmpSegment config raw.sendInfo payload))) with
      | error fault => simp [inner] at ran
      | ok result =>
        simp only [inner] at ran
        have same : sent.packet = result.packet := by
          split_ifs at ran <;> obtain rfl := Except.ok.inj ran <;> rfl
        simpa only [sentSegment, mode] using sendRawIp_packet inner (same.symm.trans passed)

/-- A segment has the header of its mode and the payload. -/
theorem sentSegment_length (config : RawConfig v) (env : SendEnv) (info : PacketInfo v)
    (payload : Bytes) : (sentSegment config env info payload).length =
      config.rawMode.sentHeaderSize info.syn + payload.length := by
  cases mode : config.rawMode with
  | faketcp =>
    simp only [sentSegment, mode, RawMode.sentHeaderSize, tcpSegment_eq, List.length_append,
      tcpHeader_length]
  | udp =>
    simp only [sentSegment, mode, RawMode.sentHeaderSize, udpSegment_length, Nat.add_comm]
  | icmp =>
    simp only [sentSegment, mode, RawMode.sentHeaderSize, icmpSegment_length, Nat.add_comm]

end Sent

/-- The raw packet round trip. Whatever the sender's metadata and the payload, as long as the
packet fits the send buffers, the bytes that the sender passes to the system, received by a peer
of the opposite role, are returned as this payload, with the metadata that the packet carries. -/
theorem sendRaw0_recvRaw0 (config peer : RawConfig v) (env : SendEnv) (raw : RawInfo config)
    (receiver : RawInfo peer) (filterPort : UInt16) (payload packet : Bytes)
    (stale : Nat → UInt8) (sent : Sent config)
    (mode : peer.rawMode = config.rawMode) (role : peer.programMode ≠ config.programMode)
    (protocol : raw.sendInfo.protocol = config.rawMode.protocol v)
    (bound : ∀ addr, peer.bindAddr = some addr → raw.sendInfo.newDstIp = addr)
    (port : config.rawMode ≠ .icmp → filterPort = raw.sendInfo.dstPort)
    (identifier : config.rawMode = .icmp → receiver.sendInfo.srcPort = raw.sendInfo.srcPort)
    (fits : v.headerSize + config.rawMode.sentHeaderSize raw.sendInfo.syn + payload.length ≤ bufLen)
    (ran : sendRaw0 config env raw payload = .ok sent) (passed : sent.packet = some packet) :
    Delivers ⟨onWire config packet, stale⟩ config.rawMode env.now raw.sendInfo payload
      (recvRaw0 peer filterPort ⟨onWire config packet, stale⟩ receiver) := by
  have size := sentSegment_length config env raw.sendInfo payload
  have header : v.headerSize ≤ 40 := by cases v <;> decide
  have buffer : bufLen = 2200 := rfl
  rw [buffer] at fits
  have short : v.headerSize + (sentSegment config env raw.sendInfo payload).length < 65536 := by
    rw [size]
    omega
  have wire := wire_onWire config raw.sendInfo env.ipId
    (sentSegment config env raw.sendInfo payload) stale short
  rw [← onWire_ipPacket, ← sendRaw0_packet ran passed] at wire
  cases sending : config.rawMode with
  | faketcp =>
    simp only [sentSegment, sending] at wire
    simp only [recvRaw0, mode, sending, port (by simp [sending])]
    exact wire.recvRawTcp bound (by rw [protocol, sending]; rfl)
  | udp =>
    simp only [sentSegment, sending] at wire
    simp only [RawMode.sentHeaderSize, sending] at fits
    simp only [recvRaw0, mode, sending, port (by simp [sending])]
    exact wire.recvRawUdp env.now bound (by rw [protocol, sending]; rfl) (by omega)
  | icmp =>
    simp only [sentSegment, sending] at wire
    simp only [RawMode.sentHeaderSize, sending] at fits
    simp only [recvRaw0, mode, sending]
    exact wire.recvRawIcmp env.now bound (by rw [protocol, sending]; rfl) (by omega) role
      (identifier sending)

/-- The client of `plainServer`. -/
def plainClient : RawConfig .ipv4 := { plainServer with programMode := .client }

/-- Answers of a system that sends everything. -/
def SendEnv.plain : SendEnv := ⟨0, 0, 0, 0, 0, true⟩

/-- A connection of the client without any history. -/
def RawInfo.fresh : RawInfo plainClient where
  sendInfo := { PacketInfo.zero with protocol := ipprotoTcp, dstPort := 4096 }
  recvInfo := .zero
  peek := false
  reservedSendSeq := 0
  rstReceived := 0
  disabled := false
  disabledAllowed := fun impossible => nomatch impossible

/-- One byte from that client reaches its server. -/
theorem sendRaw0_recvRaw0_byte :
    ∃ packet, Delivers ⟨onWire plainClient packet, fun _ => 0⟩ .faketcp 0 RawInfo.fresh.sendInfo [1]
      (recvRaw0 plainServer 4096 ⟨onWire plainClient packet, fun _ => 0⟩ RawInfo.zero) :=
  ⟨_, sendRaw0_recvRaw0 plainClient plainServer .plain .fresh .zero 4096 [1] _ (fun _ => 0) _ rfl
    (by decide) rfl (fun _ used => nomatch used) (fun _ => rfl) (fun icmp => nomatch icmp)
    (by decide) rfl rfl⟩

end Udp2raw
