import Udp2raw.Misc
import Udp2raw.Data.BigEndian
import Udp2raw.Data.BlockModes
import Udp2raw.Data.OnesComplement

/-!
# Packets and their metadata

The data model of `network.h`. A raw connection keeps what it last received
(`recv_info`) and what it sends next (`send_info`), for one address family fixed at
start. A captured packet lies in a larger buffer, so a read past its end is defined and
returns what the buffer held before.
-/
namespace Udp2raw

open BlockModes

/-- The length of an address. -/
def IpVersion.addrLen : IpVersion → Nat
  | .ipv4 => 4
  | .ipv6 => 16

/-- The value of the version field. -/
def IpVersion.number : IpVersion → Nat
  | .ipv4 => 4
  | .ipv6 => 6

/-- `sizeof(my_iphdr)` and `sizeof(my_ip6hdr)`. -/
def IpVersion.headerSize : IpVersion → Nat
  | .ipv4 => 20
  | .ipv6 => 40

/-- `sizeof(my_tcphdr)`. -/
def tcpHeaderSize : Nat := 20
/-- `sizeof(my_udphdr)`. -/
def udpHeaderSize : Nat := 8
/-- `sizeof(my_icmphdr)`. -/
def icmpHeaderSize : Nat := 8

/-- `my_ip_t`, in network byte order. -/
abbrev Ip (v : IpVersion) := Vector UInt8 v.addrLen

/-- `IPPROTO_ICMP` or `IPPROTO_ICMPV6`. -/
def IpVersion.icmpProtocol : IpVersion → UInt8
  | .ipv4 => 1
  | .ipv6 => 58

/-- `IPPROTO_TCP`. -/
def ipprotoTcp : UInt8 := 6
/-- `IPPROTO_UDP`. -/
def ipprotoUdp : UInt8 := 17

/-- The options that the raw packet layer reads. -/
structure RawConfig (v : IpVersion) where
  /-- `raw_mode`. -/
  rawMode : RawMode
  /-- `program_mode`. -/
  programMode : ProgramMode
  /-- `bind_addr`, when `bind_addr_used` is set. -/
  bindAddr : Option (Ip v)
  /-- `lower_level`. -/
  lowerLevel : Bool
  /-- `ttl_value`, cut to a byte. -/
  ttlValue : UInt8
  /-- `random_drop`, in ten thousandths. -/
  randomDrop : UInt32
  /-- `seq_mode`. -/
  seqMode : Nat
  /-- `max_rst_allowed`; negative for no limit. -/
  maxRstAllowed : Int

/-- `packet_info_t`. -/
structure PacketInfo (v : IpVersion) where
  /-- The transport protocol. -/
  protocol : UInt8
  /-- The source address. -/
  newSrcIp : Ip v
  /-- The destination address. -/
  newDstIp : Ip v
  /-- The source port, or the identifier of an echo packet. -/
  srcPort : UInt16
  /-- The destination port. -/
  dstPort : UInt16
  /-- The `SYN` flag. -/
  syn : Bool
  /-- The `ACK` flag. -/
  ack : Bool
  /-- The `PSH` flag. -/
  psh : Bool
  /-- The `RST` flag. -/
  rst : Bool
  /-- The sequence number. -/
  seq : UInt32
  /-- The acknowledgement number. -/
  ackSeq : UInt32
  /-- How often the last acknowledgement number was repeated. -/
  ackSeqCounter : UInt32
  /-- The timestamp option. -/
  ts : UInt32
  /-- The echoed timestamp. -/
  tsAck : UInt32
  /-- The sequence number of an echo packet. -/
  myIcmpSeq : UInt16
  /-- Whether a timestamp option was read. -/
  hasTs : Bool
  /-- The length of the last payload. -/
  dataLen : Nat

/-- The protocol of a mode's packets. -/
def RawMode.protocol (v : IpVersion) : RawMode → UInt8
  | .faketcp => ipprotoTcp
  | .udp => ipprotoUdp
  | .icmp => v.icmpProtocol

/-- The constructor of `packet_info_t`: only the fields of the mode are set, from two random
numbers where needed; the others keep what the memory held. -/
def PacketInfo.new {v : IpVersion} (rawMode : RawMode) (seqDraw ackDraw : UInt32)
    (memory : PacketInfo v) : PacketInfo v :=
  let info := { memory with srcPort := 0, dstPort := 0, protocol := rawMode.protocol v }
  match rawMode with
  | .faketcp =>
    { info with
      ackSeq := ackDraw, seq := seqDraw, hasTs := false, tsAck := 0, syn := false, ack := true
      ackSeqCounter := 0 }
  | .udp => info
  | .icmp => { info with myIcmpSeq := 0 }

/-- `raw_info_t`. A connection is only ever disabled when the options limit its resets. -/
structure RawInfo {v : IpVersion} (config : RawConfig v) where
  /-- What the next packet carries. -/
  sendInfo : PacketInfo v
  /-- What the last packet carried. -/
  recvInfo : PacketInfo v
  /-- Whether the packet is only looked at. -/
  peek : Bool
  /-- `reserved_send_seq`. -/
  reservedSendSeq : UInt32
  /-- The number of resets received. -/
  rstReceived : Int
  /-- Whether sending has stopped. -/
  disabled : Bool
  /-- The limit that was passed exists. -/
  disabledAllowed : disabled = true → 0 ≤ config.maxRstAllowed

/-- A packet in `g_packet_buf`, with what the buffer holds from each offset on behind it. -/
structure Capture where
  /-- The captured bytes. -/
  packet : Bytes
  /-- The older contents of the buffer. -/
  stale : Nat → UInt8

namespace Capture

/-- The byte at an offset. -/
def read (capture : Capture) (offset : Nat) : UInt8 :=
  capture.packet.getD offset (capture.stale offset)

/-- The bytes of a range. -/
def bytes (capture : Capture) (offset length : Nat) : Bytes :=
  (List.range length).map fun place => capture.read (offset + place)

/-- The sixteen bit number at an offset, in network order. -/
def u16 (capture : Capture) (offset : Nat) : UInt16 :=
  UInt16.ofNat (BigEndian.decode (capture.bytes offset 2))

/-- The thirty-two bit number at an offset, in network order; `read_u32`. -/
def u32 (capture : Capture) (offset : Nat) : UInt32 :=
  UInt32.ofNat (BigEndian.decode (capture.bytes offset 4))

/-- The address at an offset. -/
def ip (capture : Capture) (v : IpVersion) (offset : Nat) : Ip v :=
  blockOf v.addrLen (capture.bytes offset v.addrLen)

/-- The capture when only a part of the packet counts. -/
def truncate (capture : Capture) (length : Nat) : Capture where
  packet := capture.packet.take length
  stale := capture.read

/-- A range inside the packet is a part of it. -/
theorem bytes_inside (capture : Capture) {offset length : Nat}
    (inside : offset + length ≤ capture.packet.length) :
    capture.bytes offset length = (capture.packet.drop offset).take length := by
  apply List.ext_getElem
  · simp only [bytes, List.length_map, List.length_range, List.length_take, List.length_drop]
    omega
  · intro place left right
    simp only [bytes, List.length_map, List.length_range] at left
    have covered : offset + place < capture.packet.length := by omega
    simp [bytes, read, List.getElem?_eq_getElem covered]

/-- A range has its length. -/
@[simp] theorem bytes_length (capture : Capture) (offset length : Nat) :
    (capture.bytes offset length).length = length := by simp [bytes]

end Capture

/-- `csum`. -/
def csum (data : Bytes) : Nat := OnesComplement.complement (OnesComplement.wordSum data)

/-- `csum_with_header`. -/
def csumWithHeader (header data : Bytes) : Nat :=
  OnesComplement.complement (OnesComplement.wordSum header + OnesComplement.wordSum data)

/-- The pseudo header that a transport checksum covers: `pseudo_header`, or `pseudo_header6`,
whose length field is a short converted to network order in the low half of a long. -/
def pseudoHeader {v : IpVersion} (src dst : Ip v) (protocol : UInt8) (length : Nat) : Bytes :=
  match v with
  | .ipv4 => src.toList ++ dst.toList ++ [0, protocol] ++ BigEndian.encode 2 length
  | .ipv6 =>
    src.toList ++ dst.toList ++ BigEndian.encode 2 length ++ [0, 0] ++ [0, 0] ++ [0, protocol]

/-- The part of a packet that a parser hands on, by its offset and length. -/
structure Segment where
  /-- Where it starts. -/
  offset : Nat
  /-- Its length. -/
  length : Nat
  deriving DecidableEq, Repr

/-- The payload that a receiver copies out of the buffer. -/
def Capture.segment (capture : Capture) (segment : Segment) : Bytes :=
  capture.bytes segment.offset segment.length

end Udp2raw
